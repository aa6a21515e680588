/-!
# Lines and byte offsets

A line is its list of characters, and a place in it is the number of UTF-8 bytes before it. Only
places between two characters are boundaries: `cutAt?` takes a line apart at a boundary, and every
slice goes through it.
-/

namespace LineLexer

/-- The characters of one line, without its line break. -/
abbrev Line := List Char

/-- Number of UTF-8 bytes of a text. -/
def byteLength (text : List Char) : Nat :=
  text.foldr (fun c total ↦ c.utf8Size + total) 0

@[simp] theorem byteLength_nil : byteLength [] = 0 := rfl

@[simp] theorem byteLength_cons (c : Char) (text : List Char) :
    byteLength (c :: text) = c.utf8Size + byteLength text := rfl

@[simp] theorem byteLength_append (a b : List Char) :
    byteLength (a ++ b) = byteLength a + byteLength b := by
  induction a with
  | nil => simp
  | cons c a ih => simp [ih, Nat.add_assoc]

/-- The text before and after a byte offset; nothing when the offset is no boundary. -/
def cutAt? : Nat → List Char → Option (List Char × List Char)
  | 0, text => some ([], text)
  | _ + 1, [] => none
  | n + 1, c :: text =>
    if c.utf8Size ≤ n + 1 then
      (cutAt? (n + 1 - c.utf8Size) text).map fun (before, after) ↦ (c :: before, after)
    else none

/-- A byte offset at which a text can be cut. -/
def IsBoundary (text : List Char) (offset : Nat) : Prop :=
  ∃ before after, text = before ++ after ∧ byteLength before = offset

/-- A slice that does not run from a boundary to a later or equal boundary. -/
structure BadSlice where
  first : Nat
  last : Nat
deriving DecidableEq, Repr

/-- The text between two byte offsets, if both are boundaries and in order. -/
def slice? (text : List Char) (first last : Nat) : Option (List Char) := do
  guard (first ≤ last)
  let (_, after) ← cutAt? first text
  let (middle, _) ← cutAt? (last - first) after
  return middle

/-- The text between two byte offsets. -/
def slice (text : List Char) (first last : Nat) : Except BadSlice (List Char) :=
  match slice? text first last with
  | some middle => .ok middle
  | none => .error ⟨first, last⟩

/-- The text from a byte offset to the end. -/
def sliceFrom (text : List Char) (first : Nat) : Except BadSlice (List Char) :=
  match cutAt? first text with
  | some (_, after) => .ok after
  | none => .error ⟨first, byteLength text⟩

/-- Byte offset of the first occurrence of `wanted`. -/
def offsetOf? (wanted : List Char) : List Char → Option Nat
  | [] => if wanted = [] then some 0 else none
  | c :: text =>
    if wanted.isPrefixOf (c :: text) then some 0
    else (offsetOf? wanted text).map (· + c.utf8Size)

theorem cutAt?_append (before after : List Char) :
    cutAt? (byteLength before) (before ++ after) = some (before, after) := by
  induction before with
  | nil => simp [cutAt?]
  | cons c before ih =>
    have hpos : 0 < c.utf8Size := Char.utf8Size_pos c
    obtain ⟨n, hn⟩ : ∃ n, c.utf8Size + byteLength before = n + 1 :=
      Nat.exists_eq_succ_of_ne_zero (by omega)
    have hle : c.utf8Size ≤ n + 1 := by omega
    have hsub : n + 1 - c.utf8Size = byteLength before := by omega
    simp [hn, cutAt?, hle, hsub, ih]

theorem eq_append_of_cutAt? {n : Nat} {text before after : List Char}
    (h : cutAt? n text = some (before, after)) :
    text = before ++ after ∧ byteLength before = n := by
  fun_induction cutAt? n text generalizing before after with
  | case1 text =>
    obtain ⟨rfl, rfl⟩ := Prod.mk.inj (Option.some.inj h)
    simp
  | case2 => simp at h
  | case3 n c text hle ih =>
    obtain ⟨⟨a, b⟩, hab, heq⟩ := Option.map_eq_some_iff.1 h
    obtain ⟨rfl, rfl⟩ := Prod.mk.inj heq
    obtain ⟨htext, hlen⟩ := ih hab
    simp only [htext, byteLength_cons, List.cons_append, true_and]
    omega
  | case4 => simp at h

end LineLexer
