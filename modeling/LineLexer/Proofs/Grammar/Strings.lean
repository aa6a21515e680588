import LineLexer.Proofs.Grammar.CFamily

/-!
# Strings of the C family

Every string of a line ends where its text tells, and a call that leaves a string to be read on is a
call that reads the rest of its line. Where strings have one line, that rest ends in a backslash. An
empty line makes no call, so a string that is open before it is open after it.
-/

namespace LineLexer.CFamily

open Scan

/-! ## Calls -/

/-- What a call does to strings: in code it begins one just where its first character opens one, and
within one it reads on. No other call leaves a string to be read. -/
structure TellsStrings (dialect : Dialect) (multiline : Prop) (before : CodeState)
    (text ahead : List Char) (cls : Option TokenClass) (after : CodeState) : Prop where
  opens : ∀ c taken, before.reading = .base → text = c :: taken →
    (cls = some .string ↔ OpensString dialect c) ∧
    (OpensString dialect c → ReadsString multiline before c taken ahead cls after)
  goesOn : ∀ delimiter, before.reading = .string delimiter →
    ReadsString multiline before delimiter text ahead cls after
  leaves : ∀ delimiter, after.reading = .string delimiter →
    before.reading = .string delimiter ∨
      (before.reading = .base ∧ OpensString dialect delimiter ∧ text.head? = some delimiter)

variable {dialect : Dialect} {multiline : Prop} {before after : CodeState}
  {passed text ahead : List Char} {cls : Option TokenClass} {c delimiter : Char}

/-- A token of code that opens no string. -/
theorem tellsStrings_of_not_opens (hbase : before.reading = .base)
    (hopens : ¬ OpensString dialect c) (hcls : cls ≠ some .string)
    (hafter : ∀ delimiter, after.reading ≠ .string delimiter) :
    TellsStrings dialect multiline before (c :: text) ahead cls after where
  opens := by
    rintro d taken _ htext
    obtain rfl : c = d := (List.cons.inj htext).1
    exact ⟨iff_of_false hcls hopens, fun hopen ↦ absurd hopen hopens⟩
  goesOn _ hstring := absurd (hbase.symm.trans hstring) nofun
  leaves delimiter hleft := absurd hleft (hafter delimiter)

/-- What a call of code tells of strings. -/
theorem Lexes.tellsStrings (h : Lexes dialect before passed text ahead cls after) :
    TellsStrings dialect (dialect.multilineStrings = true) before text ahead cls after := by
  have hother {reading other : Reading} (hreading : before.reading = reading)
      (hne : reading ≠ other) : before.reading ≠ other := hreading ▸ hne
  have hcomment {reading : Reading} (hafter : reading ∈ [.base, .blockComment]) (delimiter : Char) :
      reading ≠ .string delimiter := by
    rintro rfl
    simp at hafter
  have hbase (hreading : before.reading = .base) (delimiter : Char) :
      before.reading ≠ .string delimiter := hother hreading Reading.noConfusion
  cases h with
  | string hreading hopens hreads =>
    refine ⟨?_, fun _ hstring ↦ absurd hstring (hbase hreading _), fun delimiter hleft ↦ ?_⟩
    · rintro d taken _ hcons
      obtain ⟨rfl, rfl⟩ := List.cons.inj hcons
      exact ⟨iff_of_true hreads.cls_eq hopens, fun _ ↦ hreads⟩
    · obtain rfl := hreads.eq_of_open hleft
      exact .inr ⟨hreading, hopens, rfl⟩
  | stringRest hreading _ hreads =>
    refine ⟨fun _ _ hstart ↦ absurd hstart (hother hreading Reading.noConfusion),
      fun delimiter hstring ↦ ?_, fun delimiter hleft ↦ ?_⟩
    · obtain rfl := Reading.string.inj (hreading.symm.trans hstring)
      exact hreads
    · obtain rfl := hreads.eq_of_open hleft
      exact .inl hreading
  | commentRest hreading _ hafter =>
    exact ⟨fun _ _ hstart ↦ absurd hstart (hother hreading Reading.noConfusion),
      fun _ hstring ↦ absurd hstring (hother hreading Reading.noConfusion),
      fun delimiter hleft ↦ absurd hleft (hcomment hafter delimiter)⟩
  | comment hreading _ hafter =>
    exact tellsStrings_of_not_opens hreading (by simp [OpensString]) (by decide) (hcomment hafter)
  | directive hreading =>
    exact tellsStrings_of_not_opens hreading (by simp [OpensString]) (by decide) (hbase hreading)
  | bracket hreading hc =>
    refine tellsStrings_of_not_opens hreading (fun hopens ↦ ?_) (by decide) (hbase hreading)
    rcases hopens.eq_or with rfl | rfl | rfl <;> exact absurd hc (by decide)
  | operator hreading hc =>
    refine tellsStrings_of_not_opens hreading (fun hopens ↦ ?_) (by decide) (hbase hreading)
    rcases hopens.eq_or with rfl | rfl | rfl <;> cases hc
  | quiet hreading hopens _ hcls =>
    have hall : ∀ cls ∈ quietClasses, cls ≠ some .string := by decide
    exact tellsStrings_of_not_opens hreading hopens (hall _ hcls) (hbase hreading)

/-- Every string token of every line ends right after the first delimiter that is not escaped, or at
the end of the line where there is none. Without an end a string goes on with the next line just in
backquotes, in Rust, and where the text of the string ends in an odd number of backslashes. The open
brackets and the base indentation stay as they are. -/
theorem string_ends_at_first_unescaped_delimiter (config : ModeConfig) (indentUnit : Nat)
    (value : CodeState) (base : Cursor) (hidden line : List Char) :
    ∃ calls last,
      LineRun (ofConfig config indentUnit).readToken (base.placed hidden [] [] line) 0
        (.code value) calls none (.code last) ∧
      readTokens (ofConfig config indentUnit).readToken
        (base.placed hidden [] [] line) 0 (.code value) =
          .ok (calls.map Call.token, .code last) ∧
      ∀ call ∈ calls, ∃ before after passed text ahead,
        line = passed ++ (text ++ ahead) ∧
        call = ⟨base.placed hidden passed [] (text ++ ahead), .code before, call.cls, .code after,
          base.placed hidden passed text ahead⟩ ∧
        TellsStrings (.ofConfig config) (dialectName config = "rust") before text ahead call.cls
          after := by
  obtain ⟨calls, last, hcalls, hrun, htokens⟩ :=
    exists_visible_calls (.ofConfig config) indentUnit value base hidden line
  refine ⟨calls, last, hrun, htokens, fun call hcall ↦ ?_⟩
  obtain ⟨before, after, passed, text, ahead, hline, hlexes, hparts⟩ :=
    lexes_callsAlong hcalls call hcall
  have hmultiline := propext (multilineStrings_ofConfig config)
  exact ⟨before, after, passed, text, ahead, hline, hparts, hmultiline ▸ hlexes.tellsStrings⟩

/-! ## Strings left open -/

/-- Where strings have one line, the last character that a call takes before it leaves a string open
is a backslash. -/
theorem TellsStrings.getLast? (h : TellsStrings dialect multiline before text ahead cls after)
    (hopen : after.reading = .string delimiter) (hquote : delimiter ≠ '\x60')
    (hmultiline : ¬ multiline) : text.getLast? = some '\\' := by
  rcases h.leaves delimiter hopen with hstring | ⟨hbase, hopens, hhead⟩
  · exact ((h.goesOn delimiter hstring).escapes hopen hquote hmultiline).getLast?
  · obtain ⟨taken, rfl⟩ := List.head?_eq_some_iff.1 hhead
    have hreads := (h.opens delimiter taken hbase rfl).2 hopens
    rw [List.getLast?_cons, (hreads.escapes hopen hquote hmultiline).getLast?, Option.getD_some]

/-- Where strings have one line, the calls on a text leave a string open only if the text ends in a
backslash. -/
theorem getLast?_callsAlong (hmultiline : dialect.multilineStrings = false) {indentUnit : Nat}
    {base : Cursor} {hidden : List Char} {calls : List Call}
    (h : CallsAlong (ofDialect dialect indentUnit).readToken base hidden passed (.code before) ahead
      calls (.code after)) :
    (ahead = [] → after = before) ∧
      ∀ delimiter, after.reading = .string delimiter → delimiter ≠ '\x60' → ahead ≠ [] →
        ahead.getLast? = some '\\' := by
  refine callsAlong_induction ?_ ?_ h
  · exact fun _ _ ↦ ⟨fun _ ↦ rfl, fun _ _ _ hnil ↦ absurd rfl hnil⟩
  · intro passed text ahead cls before next after calls htext hcall ⟨hsame, hrest⟩
    have hsome : text ++ ahead ≠ [] := by simp [htext]
    refine ⟨fun hnil ↦ absurd hnil hsome, fun delimiter hopen hquote _ ↦ ?_⟩
    by_cases hahead : ahead = []
    · have hlexes := (lexes_readToken dialect before passed hsome).of_run hcall
      rw [hsame hahead] at hopen
      rw [hahead, List.append_nil]
      exact hlexes.tellsStrings.getLast? hopen hquote (by simp [hmultiline])
    · rw [List.getLast?_append, hrest delimiter hopen hquote hahead, Option.some_or]

/-- The last line that is not empty ends in a backslash. -/
def EndsInBackslash (lines : List Line) : Prop :=
  ∃ earlier line blanks, lines = earlier ++ line :: blanks ∧ line.getLast? = some '\\' ∧
    ∀ blank ∈ blanks, blank = []

theorem EndsInBackslash.cons {lines : List Line} (h : EndsInBackslash lines) (line : Line) :
    EndsInBackslash (line :: lines) := by
  obtain ⟨earlier, last, blanks, rfl, hlast⟩ := h
  exact ⟨line :: earlier, last, blanks, rfl, hlast⟩

/-- Where strings have one line, a string open after some lines was open before them and all of them
are empty, or the last that is not empty ends in a backslash. -/
theorem exists_runs_of_open (hmultiline : dialect.multilineStrings = false) (indentUnit : Nat)
    (value : CodeState) (lines : List Line) (tabSize : Nat) :
    ∃ runs last,
      tokenizeLines (ofDialect dialect indentUnit) tabSize (.code value) lines = .ok runs ∧
      stateAfter (.code value) runs = .code last ∧
      ∀ delimiter, last.reading = .string delimiter → delimiter ≠ '\x60' →
        (last = value ∧ ∀ line ∈ lines, line = []) ∨ EndsInBackslash lines := by
  apply lines_induction dialect indentUnit value (motive := fun value lines _ last ↦
    ∀ delimiter, last.reading = .string delimiter → delimiter ≠ '\x60' →
      (last = value ∧ ∀ line ∈ lines, line = []) ∨ EndsInBackslash lines)
  · exact fun _ _ _ _ ↦ .inl ⟨rfl, List.forall_mem_nil _⟩
  · intro value last lines _ hlines delimiter hopen hquote
    apply (hlines delimiter hopen hquote).imp
    · rintro ⟨hsame, hall⟩
      exact ⟨hsame, List.forall_mem_cons.2 ⟨rfl, hall⟩⟩
    · exact fun hends ↦ hends.cons []
  · intro value middle last line calls lines _ hline hcalls hlines delimiter hopen hquote
    right
    rcases hlines delimiter hopen hquote with ⟨rfl, hall⟩ | hends
    · exact ⟨[], line, lines, rfl,
        (getLast?_callsAlong hmultiline hcalls).2 delimiter hopen hquote hline, hall⟩
    · exact hends.cons line

/-- Where strings have one line, a string in single or double quotes is open after some lines only
if the last of them that is not empty ends in a backslash. -/
theorem string_left_open_by_backslash (config : ModeConfig) (hname : dialectName config ≠ "rust")
    (indentUnit tabSize baseIndent : Nat) (lines : List Line) :
    ∃ runs last,
      tokenizeLines (ofConfig config indentUnit) tabSize
        ((ofConfig config indentUnit).start baseIndent) lines = .ok runs ∧
      stateAfter ((ofConfig config indentUnit).start baseIndent) runs = .code last ∧
      ∀ delimiter, last.reading = .string delimiter → delimiter ≠ '\x60' →
        EndsInBackslash lines := by
  have hmultiline : (Dialect.ofConfig config).multilineStrings = false :=
    Bool.eq_false_iff.2 fun hgoes ↦ hname ((multilineStrings_ofConfig config).1 hgoes)
  obtain ⟨runs, last, hruns, hlast, hopen⟩ :=
    exists_runs_of_open hmultiline indentUnit ⟨.base, [], baseIndent⟩ lines tabSize
  refine ⟨runs, last, hruns, hlast, fun delimiter hstring hquote ↦ ?_⟩
  apply (hopen delimiter hstring hquote).resolve_left
  rintro ⟨rfl, _⟩
  cases hstring

/-- In C, a string that a backslash carries over the end of its line, and an empty line after it. -/
theorem exists_runs_of_empty_line :
    ∃ runs, tokenizeLines (ofConfig { name := "clike" } 4) 4
        ((ofConfig { name := "clike" } 4).start 0) ["\"a\\".toList, []] = .ok runs ∧
      stateAfter ((ofConfig { name := "clike" } 4).start 0) runs =
        .code ⟨.string '"', [], 0⟩ := by
  have hrun : LineRun (ofConfig { name := "clike" } 4).readToken (.ofLine "\"a\\".toList 4) 0
      ((ofConfig { name := "clike" } 4).start 0) _ none (.code ⟨.string '"', [], 0⟩) :=
    .advance (by decide) rfl (by decide) (.done (by decide))
  exact ⟨_, tokenizeLines_cons (hrun.tokenizeLine_eq (by decide)) rfl, rfl⟩

/-- The backslash is found on the line before the empty one. -/
theorem string_left_open_by_backslash_blank :
    dialectName { name := "clike" } ≠ "rust" ∧
      ∃ runs, tokenizeLines (ofConfig { name := "clike" } 4) 4
          ((ofConfig { name := "clike" } 4).start 0) ["\"a\\".toList, []] = .ok runs ∧
        stateAfter ((ofConfig { name := "clike" } 4).start 0) runs = .code ⟨.string '"', [], 0⟩ ∧
        EndsInBackslash ["\"a\\".toList, []] := by
  have hname : dialectName { name := "clike" } ≠ "rust" := by decide
  obtain ⟨runs, hruns, hlast⟩ := exists_runs_of_empty_line
  obtain ⟨runs', last, hruns', hlast', hopen⟩ :=
    string_left_open_by_backslash { name := "clike" } hname 4 4 0 ["\"a\\".toList, []]
  obtain rfl : runs = runs' := Except.ok.inj (hruns.symm.trans hruns')
  obtain rfl : ⟨.string '"', [], 0⟩ = last := State.code.inj (hlast.symm.trans hlast')
  exact ⟨hname, runs, hruns, hlast, hopen '"' rfl (by decide)⟩

/-- The string is still open after the empty line, which ends in no backslash. -/
theorem empty_line_closes_no_string :
    ∃ runs, tokenizeLines (ofConfig { name := "clike" } 4) 4
        ((ofConfig { name := "clike" } 4).start 0) ["\"a\\".toList, []] = .ok runs ∧
      stateAfter ((ofConfig { name := "clike" } 4).start 0) runs = .code ⟨.string '"', [], 0⟩ ∧
      ([] : Line).getLast? ≠ some '\\' := by
  obtain ⟨runs, hruns, hlast⟩ := exists_runs_of_empty_line
  exact ⟨runs, hruns, hlast, by decide⟩

end LineLexer.CFamily
