import Mesh.Lib.Sha256

/-!
# Mesh.Lib.Chars

The characters of a text, read off its bytes where all of them have seven bits. Evaluation of
`String.toList` decodes a text from its start for each character; `chars` takes one pass.
-/

namespace Mesh

def chars (s : String) : List Char :=
  if (utf8Bytes s).all (· < 128) then (utf8Bytes s).map Char.ofNat else s.toList

theorem utf8Bytes_ofList (l : List Char) :
    utf8Bytes (String.ofList l) = l.flatMap fun c => (String.utf8EncodeChar c).map UInt8.toNat := by
  simp [utf8Bytes, List.utf8Encode, List.map_flatMap]

/-- A character whose encoding holds bytes of seven bits only is its one byte. -/
theorem map_ofNat_utf8EncodeChar {c : Char} (h : ∀ b ∈ String.utf8EncodeChar c, b.toNat < 128) :
    (String.utf8EncodeChar c).map (fun b => Char.ofNat b.toNat) = [c] := by
  by_cases hc : c.val.toNat ≤ 127
  · have hone : c.utf8Size = 1 := Char.utf8Size_eq_one_iff.mpr (by simpa [UInt32.le_iff_toNat_le] using hc)
    have hbyte : c.val.toUInt8.toNat = c.toNat := by
      rw [UInt32.toNat_toUInt8]
      exact Nat.mod_eq_of_lt (by omega)
    rw [String.utf8EncodeChar_eq_singleton hone, List.map_singleton, hbyte, Char.ofNat_toNat]
  · -- every longer encoding starts with a byte of eight bits
    exfalso
    simp only [String.utf8EncodeChar, hc, if_false] at h
    split at h
    · have := h _ List.mem_cons_self
      simp at this
      omega
    split at h
    · have := h _ List.mem_cons_self
      simp at this
      omega
    · have := h _ List.mem_cons_self
      simp at this
      omega

theorem toList_eq_chars (s : String) : s.toList = chars s := by
  unfold chars
  split
  · rename_i h
    rw [List.all_eq_true] at h
    obtain ⟨l, rfl⟩ : ∃ l, s = String.ofList l := ⟨s.toList, String.ofList_toList.symm⟩
    rw [utf8Bytes_ofList] at h ⊢
    rw [String.toList_ofList, List.map_flatMap]
    induction l with
    | nil => rfl
    | cons c l ih =>
      simp only [List.flatMap_cons, List.mem_append] at h
      have hc := map_ofNat_utf8EncodeChar (c := c) fun b hb => by
        simpa using h _ (.inl (List.mem_map_of_mem hb))
      have hl := ih fun b hb => h b (.inr hb)
      rw [List.flatMap_cons, ← hl, List.map_map]
      exact congrArg (· ++ l) hc.symm
  · rfl

/-- The function at the text in its evaluated form. Evaluation of `f s` keeps `s` as it is written; here the
text is brought to its bytes first, so that equal texts make equal terms and `f` is evaluated once for each. -/
def forced {α : Type} (f : String → α) (s : String) : α :=
  match s with
  | .ofByteArray bytes valid => f (.ofByteArray bytes valid)

theorem forced_eq {α : Type} (f : String → α) (s : String) : forced f s = f s := rfl

theorem utf8ByteSize_ofList_le (cs : List Char) : (String.ofList cs).utf8ByteSize ≤ 4 * cs.length := by
  induction cs with
  | nil => simp
  | cons c cs ih =>
    have := c.utf8Size_le_four
    simp only [String.ofList_cons, String.utf8ByteSize_append, String.utf8ByteSize_singleton, List.length_cons]
    omega

end Mesh
