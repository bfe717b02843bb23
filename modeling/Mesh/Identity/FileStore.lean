import Mesh.Identity.Operations
import Mesh.Lib.DocumentRuns

/-!
# Mesh.Identity.FileStore

The identity store on disk: `FileStore` is the store of one document, with the checks and the operations of
this package. A document of the first schema is rewritten when the store is opened.
-/

namespace Mesh
namespace Identity

/-- Questions that do not change the document. -/
inductive Query where
  | authenticateSession (token policyFingerprint : String) (now : Int)

def Query.begin : Query → Result (State → Result Session)
  | .authenticateSession token policyFingerprint now =>
    Identity.authenticateSession token policyFingerprint now

def Query.answer (q : Query) (s : State) : Result (Result Reply) := do
  let inspect ← q.begin
  let session ← inspect s
  .ok (.ok (.session session))

def fileStoreTexts : Document.Texts where
  prepare := [
    (.encode, "encode identity state"),
    (.create, "create temporary identity state"),
    (.write, "write temporary identity state"),
    (.syncFile, "sync temporary identity state"),
    (.closeFile, "close temporary identity state")]
  replace := "replace identity state"
  sync := "sync identity state directory"
  retry := "retry sync identity state directory"
  whole := fun _ _ _ => rfl

def blankState : State := ⟨.current, [], [], [], [], []⟩

/-- The checks of `OpenFileStore`. -/
def openState (env : Env) (s : State) : Result (Option State) := do
  mapError (Failure.wrap "validate identity state") (validateState env s)
  match s.schema with
  | .legacy => do
    let next := { s with schema := .current, audit := [] }
    mapError (Failure.wrap "validate migrated identity state") (validateState env next)
    .ok (some next)
  | _ => .ok none

def fileStore (env : Env) : Document.Design State Failure Op Query (Result Reply) where
  texts := fileStoreTexts
  blank := blankState
  accept := openState env
  screen o := o.begin env >>= fun _ => .ok ()
  apply := Op.apply env
  -- `cloneIdentityState` copies every array
  leaves _ s := s
  screenRead q := q.begin >>= fun _ => .ok ()
  reads := Query.answer
  cancellable := true

end Identity
end Mesh
