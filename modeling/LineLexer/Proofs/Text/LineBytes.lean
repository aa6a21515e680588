import LineLexer.Proofs.Outcome
import LineLexer.Proofs.Text.Boundary
import LineLexer.Proofs.Text.Lines

/-!
# Lines cut out by their bytes

Lines may be cut out of a text without looking at its characters: the bytes of the text are read one
by one, and a slice is taken wherever a byte is that of a line separator. In UTF-8 such a byte is
part of no other character, so every slice runs between boundaries and the lines are the same.
-/

namespace LineLexer

open Outcome

def utf8Bytes (text : List Char) : List UInt8 := text.flatMap String.utf8EncodeChar

/-- Reads the bytes that follow offset `pos`, and slices the text at every separator. The line that
is being read began at `start`. -/
def cutLinesFrom (text : List Char) (start pos : Nat) : List UInt8 → Except BadSlice (List Line)
  | [] => do
    let line ← sliceFrom text start
    return [line]
  | 0x0a :: bytes => do
    let line ← slice text start pos
    let lines ← cutLinesFrom text (pos + 1) (pos + 1) bytes
    return line :: lines
  | 0x0d :: 0x0a :: bytes => do
    let line ← slice text start pos
    let lines ← cutLinesFrom text (pos + 2) (pos + 2) bytes
    return line :: lines
  | 0x0d :: bytes => do
    let line ← slice text start pos
    let lines ← cutLinesFrom text (pos + 1) (pos + 1) bytes
    return line :: lines
  | _ :: bytes => cutLinesFrom text start (pos + 1) bytes

/-- The lines of a text, cut out by byte offsets. -/
def cutLines (text : List Char) : Except BadSlice (List Line) :=
  cutLinesFrom text 0 0 (utf8Bytes text)

/-! ## Bytes of a character -/

theorem utf8Bytes_cons (c : Char) (text : List Char) :
    utf8Bytes (c :: text) = String.utf8EncodeChar c ++ utf8Bytes text := rfl

/-- A byte of a character is the code of the character, or no ASCII byte. -/
theorem toNat_of_mem_utf8EncodeChar {c : Char} {byte : UInt8} (h : byte ∈ String.utf8EncodeChar c) :
    byte.toNat = c.toNat ∨ 128 ≤ byte.toNat := by
  have hcode : c.toNat = c.val.toNat := rfl
  unfold String.utf8EncodeChar at h
  dsimp only at h
  split at h
  · rw [List.mem_singleton] at h
    subst h
    rw [UInt8.toNat_ofNat']
    omega
  · right
    split at h
    · simp only [List.mem_cons, List.not_mem_nil, or_false] at h
      rcases h with rfl | rfl <;> rw [UInt8.toNat_ofNat'] <;> omega
    · split at h
      · simp only [List.mem_cons, List.not_mem_nil, or_false] at h
        rcases h with rfl | rfl | rfl <;> rw [UInt8.toNat_ofNat'] <;> omega
      · simp only [List.mem_cons, List.not_mem_nil, or_false] at h
        rcases h with rfl | rfl | rfl | rfl <;> rw [UInt8.toNat_ofNat'] <;> omega

/-- The byte of an ASCII character is part of no other character. -/
theorem eq_of_mem_utf8EncodeChar {c d : Char} (hd : d.toNat < 128)
    (h : UInt8.ofNat d.toNat ∈ String.utf8EncodeChar c) : c = d := by
  apply Char.toNat_inj.1
  have hcode := toNat_of_mem_utf8EncodeChar h
  rw [UInt8.toNat_ofNat'] at hcode
  omega

/-- A text whose first byte is that of a line feed begins with a line feed. -/
theorem exists_lineFeed_of_utf8Bytes_eq_cons {text : List Char} {bytes : List UInt8}
    (h : utf8Bytes text = 0x0a :: bytes) : ∃ rest, text = '\n' :: rest := by
  cases text with
  | nil => cases h
  | cons c text =>
    have hne : String.utf8EncodeChar c ≠ [] := by
      have hlength := String.length_utf8EncodeChar c
      have hpos := c.utf8Size_pos
      rw [← List.length_pos_iff]
      omega
    obtain ⟨byte, others, hbytes⟩ := List.exists_cons_of_ne_nil hne
    rw [utf8Bytes_cons, hbytes, List.cons_append, List.cons.injEq] at h
    have hmem : (0x0a : UInt8) ∈ String.utf8EncodeChar c := by
      rw [hbytes, h.1]
      exact List.mem_cons_self
    exact ⟨text, by rw [eq_of_mem_utf8EncodeChar (d := '\n') (by decide) hmem]⟩

/-! ## Cutting -/

/-- Bytes that separate nothing are passed over. -/
theorem cutLinesFrom_append (text : List Char) (start pos : Nat) {bytes : List UInt8}
    (h : ∀ byte ∈ bytes, byte ≠ 0x0a ∧ byte ≠ 0x0d) (more : List UInt8) :
    cutLinesFrom text start pos (bytes ++ more) =
      cutLinesFrom text start (pos + bytes.length) more := by
  induction bytes generalizing pos with
  | nil => rfl
  | cons byte bytes ih =>
    obtain ⟨hbyte, hbytes⟩ := List.forall_mem_cons.1 h
    rw [List.cons_append, cutLinesFrom, ih _ hbytes, List.length_cons]
    · congr 1
      omega
    · exact hbyte.1
    · intro _ hreturn
      exact absurd hreturn hbyte.2
    · exact hbyte.2

/-- Behind a separator of the given width the next line begins. -/
theorem byteLength_behind {before line separator : List Char} {pos width : Nat}
    (hpos : pos = byteLength before + byteLength line) (hwidth : byteLength separator = width) :
    pos + width = byteLength (before ++ (line ++ separator)) := by
  rw [byteLength_append, byteLength_append, hwidth, hpos, Nat.add_assoc]

/-- The bytes between the start of a line and its end are the line. -/
theorem slice_eq_line {text before line rest : List Char} {start pos : Nat}
    (htext : text = before ++ (line ++ rest)) (hstart : start = byteLength before)
    (hpos : pos = byteLength before + byteLength line) : slice text start pos = .ok line := by
  rw [htext, hstart, hpos, slice_append]

/-- Where a line has been read up to `pos`, cutting the rest gives the lines of the rest, and what
was read stands before the first of them. -/
theorem cutLinesFrom_eq {text before line rest : List Char} {start pos : Nat}
    (htext : text = before ++ (line ++ rest)) (hstart : start = byteLength before)
    (hpos : pos = byteLength before + byteLength line) :
    cutLinesFrom text start pos (utf8Bytes rest) =
      .ok ((line ++ (splitFirstLine rest).1) :: (splitFirstLine rest).2) := by
  fun_induction splitFirstLine rest generalizing before line start pos with
  | case1 =>
    rw [List.append_nil] at htext
    rw [utf8Bytes, List.flatMap_nil, cutLinesFrom, htext, hstart, sliceFrom_append, List.append_nil]
    rfl
  | case2 rest first others hsplit ih =>
    have hbehind : pos + 2 = byteLength (before ++ (line ++ ['\r', '\n'])) :=
      byteLength_behind hpos rfl
    have hnext := @ih _ [] _ _ (by simp [htext]) hbehind hbehind
    have hbytes : utf8Bytes ('\r' :: '\n' :: rest) = 0x0d :: 0x0a :: utf8Bytes rest := rfl
    rw [hbytes, cutLinesFrom, slice_eq_line htext hstart hpos, ok_bind, hnext, ok_bind, hsplit,
      List.append_nil]
    rfl
  | case3 c rest hpair first others hsplit hc ih =>
    have hwidth : byteLength [c] = 1 := by rcases hc with rfl | rfl <;> rfl
    have hbehind := byteLength_behind hpos hwidth
    have hnext := @ih _ [] _ _ (by simp [htext]) hbehind hbehind
    rcases hc with rfl | rfl
    · have hbytes : utf8Bytes ('\n' :: rest) = 0x0a :: utf8Bytes rest := rfl
      rw [hbytes, cutLinesFrom, slice_eq_line htext hstart hpos, ok_bind, hnext, ok_bind, hsplit,
        List.append_nil]
      rfl
    · have hbytes : utf8Bytes ('\r' :: rest) = 0x0d :: utf8Bytes rest := rfl
      rw [hbytes, cutLinesFrom, slice_eq_line htext hstart hpos, ok_bind, hnext, ok_bind, hsplit,
        List.append_nil]
      · rfl
      · intro bytes hfeed
        obtain ⟨behind, hrest⟩ := exists_lineFeed_of_utf8Bytes_eq_cons hfeed
        exact hpair behind rfl hrest
  | case4 c rest hpair first others hsplit hc ih =>
    have hbytes (byte : UInt8) (hbyte : byte ∈ String.utf8EncodeChar c) :
        byte ≠ 0x0a ∧ byte ≠ 0x0d := by
      constructor
      · rintro rfl
        exact hc (.inl (eq_of_mem_utf8EncodeChar (by decide) hbyte))
      · rintro rfl
        exact hc (.inr (eq_of_mem_utf8EncodeChar (by decide) hbyte))
    have hnext := @ih before (line ++ [c]) start (pos + c.utf8Size) (by simp [htext]) hstart
      (by rw [hpos, byteLength_append, Nat.add_assoc]; rfl)
    rw [utf8Bytes_cons, cutLinesFrom_append _ _ _ hbytes, String.length_utf8EncodeChar, hnext,
      hsplit, List.append_assoc]
    rfl

/-- Cutting a text by its bytes asks for no bad slice and gives the lines of the text. -/
theorem cutLines_eq (text : List Char) : cutLines text = .ok (splitLines text) :=
  @cutLinesFrom_eq text [] [] text 0 0 rfl rfl rfl

end LineLexer
