import LineLexer.Proofs.Grammar.TomlRecord
import LineLexer.Proofs.Grammar.TomlValue

/-!
# An entry leaves no trace

However deep the value of an entry is nested, its line has one token for each of its parts, and it
ends outside all strings and brackets. What follows is read as it would be at the start of a text.
-/

namespace LineLexer.TomlGrammar

open Value

/-- The tokens are the parts of the line one by one: each has the text of its part, and keys,
strings and integers have classes of their own. -/
structure OneTokenEach (line : Line) (parts : List Part) (tokens : List Token) : Prop where
  length_eq : tokens.length = parts.length
  text : ∀ pair ∈ parts.zip tokens, slice? line pair.2.start pair.2.stop = some pair.1.text
  key : ∀ pair ∈ parts.zip tokens, pair.1.role = .key → pair.2.cls = some .attributeName
  string : ∀ pair ∈ parts.zip tokens, pair.1.role = .string → pair.2.cls = some .string
  integer : ∀ pair ∈ parts.zip tokens, pair.1.role = .integer → pair.2.cls = some .number

/-- Every token has the class of its part. -/
theorem cls_of_mem_zip {parts : List Part} {offset : Nat} :
    ∀ pair ∈ parts.zip (tokensFrom offset (parts.map Part.piece)),
      pair.2.cls = pair.1.role.cls := by
  induction parts generalizing offset with
  | nil => nofun
  | cons part parts ih => exact List.forall_mem_cons.2 ⟨rfl, ih⟩

/-- Every token covers the text of its part. -/
theorem slice?_of_mem_zip (passed : List Char) (parts : List Part) :
    ∀ pair ∈ parts.zip (tokensFrom (byteLength passed) (parts.map Part.piece)),
      slice? (passed ++ written parts) pair.2.start pair.2.stop = some pair.1.text := by
  induction parts generalizing passed with
  | nil => nofun
  | cons part parts ih =>
    have hfirst := slice?_append passed part.text (written parts)
    have hrest := ih (passed ++ part.text)
    rw [byteLength_append, List.append_assoc] at hrest
    exact List.forall_mem_cons.2 ⟨hfirst, hrest⟩

theorem oneTokenEach (parts : List Part) :
    OneTokenEach (written parts) parts (tokensFrom 0 (parts.map Part.piece)) where
  length_eq := by rw [length_tokensFrom, List.length_map]
  text := slice?_of_mem_zip [] parts
  key pair hpair hrole := by rw [cls_of_mem_zip pair hpair, hrole, Role.cls]
  string pair hpair hrole := by rw [cls_of_mem_zip pair hpair, hrole, Role.cls]
  integer pair hpair hrole := by rw [cls_of_mem_zip pair hpair, hrole, Role.cls]

/-- Outside strings and brackets the flag is all that is left open. -/
theorem Outside.position {record : Record} (h : Outside record) :
    At record ⟨record.bool "lhs", []⟩ where
  string := by rw [Record.str?, h.string]
  lhs := rfl
  nesting := h.nesting

/-- A record that has the fields it should have is outside if it is at a position outside. -/
theorem At.outside {record : Record} {lhs : Bool} (h : At record ⟨lhs, []⟩)
    (hrecord : Alike record record) :
    Outside record ∧ record.find? "lhs" = some (.bool lhs) := by
  obtain ⟨hstring, hlhs, hnesting⟩ := h
  rw [Record.str?] at hstring
  refine ⟨⟨?_, hnesting⟩, ?_⟩
  · cases hfound : record.find? "string" with
    | none => rfl
    | some field =>
      obtain ⟨delimiter, rfl, _⟩ := hrecord.delimited field hfound
      rw [hfound] at hstring
      cases hstring
  · obtain ⟨flag, hflag, _⟩ := hrecord.lhs
    rw [Record.bool, hflag] at hlhs
    obtain rfl : flag = lhs := hlhs
    exact hflag

/-- From every state outside strings and brackets the line `key = value` is read part by part, and
back to such a state in which a value would be expected; whatever lines follow have the tokens that
they have from the start of a text. -/
theorem entry_leaves_no_trace {record : Record} (hstate : Reachable mode (.record record))
    (hnesting : record.list "nesting" = []) (hstring : record.find? "string" = none)
    (key : BareKey) (value : Value) (tabSize : Nat) :
    ∃ (tokens : List Token) (after : Record),
      tokenizeLine mode (line key value) (.record record) tabSize = .ok (tokens, .record after) ∧
      OneTokenEach (line key value) (partsOfEntry (key, value)) tokens ∧
      after.list "nesting" = [] ∧ after.find? "string" = none ∧
      after.find? "lhs" = some (.bool false) ∧
      ∀ (lines : List Line) (baseIndent tabSize : Nat), ∃ runs runs',
        tokenizeLines mode tabSize (.record after) lines = .ok runs ∧
        tokenizeLines mode tabSize (mode.start baseIndent) lines = .ok runs' ∧
        runs.map Prod.fst = runs'.map Prod.fst := by
  have houtside : Outside record := ⟨hstring, hnesting⟩
  obtain ⟨after, hafter, hline⟩ := tokenizeLine_line houtside.position key value tabSize
  obtain ⟨_, ⟨⟩, hfields⟩ := exists_record_of_reachable (hstate.line hline)
  obtain ⟨hafter, hlhs⟩ := hafter.outside hfields
  refine ⟨_, after, hline, oneTokenEach _, hafter.nesting, hafter.string, hlhs, ?_⟩
  intro lines baseIndent tabSize
  have hstart : AlikeAtStart after (.ofList [("lhs", .bool true)]) :=
    .inr ⟨hafter, rfl, rfl⟩
  exact hstart.tokenizeLines_eq lines tabSize

/-- An inline table in an array, and then a header, which would be two brackets in a value. -/
theorem entry_leaves_no_trace_nested :
    ∃ value : Value, ∃ key : BareKey, ∃ tokens after,
      line key value = "k = [\x7ba = 1\x7d]".toList ∧
      tokenizeLine mode (line key value) (mode.start 0) 4 = .ok (tokens, .record after) ∧
      OneTokenEach (line key value) (partsOfEntry (key, value)) tokens ∧
      after.find? "lhs" = some (.bool false) ∧
      ∃ runs runs', tokenizeLines mode 4 (.record after) ["[b]".toList] = .ok runs ∧
        tokenizeLines mode 4 (mode.start 0) ["[b]".toList] = .ok runs' ∧
        runs.map Prod.fst = runs'.map Prod.fst := by
  let one : Integer := ⟨none, '1', [], .inl rfl, rfl, List.forall_mem_nil _⟩
  obtain ⟨tokens, after, hline, htokens, _, _, hlhs, hlines⟩ :=
    entry_leaves_no_trace (.start 0) rfl rfl (.single 'k' rfl)
      (.array [.table [(.single 'a' rfl, .integer one)]]) 4
  exact ⟨_, _, tokens, after, by decide, hline, htokens, hlhs, hlines ["[b]".toList] 0 4⟩

end LineLexer.TomlGrammar
