import LineLexer.CommandLine.Arguments

/-!
# Operands of the command line

An argument is an option, the value of the option before it, or an operand: a file name, or a hyphen
for standard input. Reading goes through the arguments one by one and knows one file at most. A file
name is refused where a file is known already, but a hyphen is not: it takes the place of that file.
-/

namespace LineLexer.CommandLine

/-- The options that take the argument after them as their value. -/
def valueOptions : List String := ["--mode", "-m", "--tab-width", "-t", "--config", "-c"]

def flags : List String :=
  ["--help", "-h", "--version", "-V", "--tokens", "--list", "-v", "--verbose", "-vv"]

/-- The argument is a file name or stands for standard input. -/
def IsOperand (argument : String) : Prop := argument = "-" ∨ argument.toList.head? ≠ some '-'

instance (argument : String) : Decidable (IsOperand argument) :=
  inferInstanceAs (Decidable (_ ∨ _))

/-- The arguments that are left without the options and their values. -/
def operands : List String → List String
  | [] => []
  | argument :: rest =>
    if argument ∈ valueOptions then
      match rest with
      | [] => []
      | _ :: rest => operands rest
    else if IsOperand argument then argument :: operands rest
    else operands rest

variable {arguments next last : Arguments} {option value operand : String}
  {args before taken rest : List String}

theorem not_mem_of_isOperand (h : IsOperand operand) : operand ∉ valueOptions ++ flags := by
  have hknown : ∀ option ∈ valueOptions ++ flags, ¬ IsOperand option := by decide
  exact fun hmem ↦ hknown operand hmem h

/-- An option with a value takes the argument behind it, whatever that looks like. -/
theorem operands_value (h : option ∈ valueOptions) (value : String) (rest : List String) :
    operands (option :: value :: rest) = operands rest := by
  rw [operands.eq_def]
  simp [h]

theorem operands_option (hvalue : option ∉ valueOptions) (hoption : ¬ IsOperand option)
    (rest : List String) : operands (option :: rest) = operands rest := by
  rw [operands.eq_def]
  simp [hvalue, hoption]

theorem operands_operand (h : IsOperand operand) (rest : List String) :
    operands (operand :: rest) = operand :: operands rest := by
  have hvalue : operand ∉ valueOptions := fun hmem ↦
    not_mem_of_isOperand h (List.mem_append_left flags hmem)
  rw [operands.eq_def]
  simp [hvalue, h]

/-! ## One argument -/

/-- Reading goes on after the arguments taken, whatever they are followed by. -/
def GoesOn (arguments : Arguments) (taken : List String) (next : Arguments) : Prop :=
  ∀ rest, parseFrom arguments (taken ++ rest) = parseFrom next rest

/-- Reading does not get past the arguments taken, and ends with no arguments to run on. -/
def Ends (arguments : Arguments) (taken : List String) : Prop :=
  ∀ rest last, parseFrom arguments (taken ++ rest) ≠ .ok (.run last)

/-- An option with a value leaves the file as it is, or reading ends there. -/
theorem goesOn_or_ends_value (arguments : Arguments) (hoption : option ∈ valueOptions)
    (value : String) :
    (∃ next, next.file = arguments.file ∧ GoesOn arguments [option, value] next) ∨
      Ends arguments [option, value] := by
  simp only [valueOptions, List.mem_cons, List.not_mem_nil, or_false] at hoption
  rcases hoption with rfl | rfl | rfl | rfl | rfl | rfl
  -- Two names each for the mode, the width of tabs and the settings; the last are taken unread.
  iterate 2
    cases hmode : modeArgument value with
    | error => exact .inr fun rest last ↦ by simp [parseFrom, hmode, bind, Except.bind]
    | ok spec =>
      exact .inl ⟨{ arguments with mode := some spec }, rfl, fun rest ↦ by
        simp [parseFrom, hmode, bind, Except.bind]⟩
  iterate 2
    cases hwidth : tabWidthArgument value with
    | error => exact .inr fun rest last ↦ by simp [parseFrom, hwidth, bind, Except.bind]
    | ok width =>
      exact .inl ⟨{ arguments with tabWidth := some width }, rfl, fun rest ↦ by
        simp [parseFrom, hwidth, bind, Except.bind]⟩
  all_goals
    exact .inl ⟨{ arguments with settings := some value }, rfl, fun rest ↦ by simp [parseFrom]⟩

theorem goesOn_or_ends_option (arguments : Arguments) (hvalue : option ∉ valueOptions)
    (hoption : ¬ IsOperand option) :
    (∃ next, next.file = arguments.file ∧ GoesOn arguments [option] next) ∨
      Ends arguments [option] := by
  by_cases hflag : option ∈ flags
  · simp only [flags, List.mem_cons, List.not_mem_nil, or_false] at hflag
    rcases hflag with rfl | rfl | rfl | rfl | rfl | rfl | rfl | rfl | rfl
    -- Two names each for help and the version.
    iterate 4 exact .inr fun rest last ↦ by rw [List.singleton_append, parseFrom.eq_def]; simp
    all_goals
      refine .inl ⟨_, ?_, fun rest ↦ by rw [List.singleton_append, parseFrom.eq_def]; simp; rfl⟩
      rfl
  · refine .inr fun rest last ↦ ?_
    simp only [valueOptions, IsOperand, flags, List.mem_cons, List.not_mem_nil, or_false, not_or,
      Classical.not_not] at hvalue hoption hflag
    rw [List.singleton_append, parseFrom.eq_def]
    simp [hvalue, hoption, hflag]

/-- A file name is refused where a file is known; a hyphen never is. -/
theorem parseFrom_operand (arguments : Arguments) (hoperand : IsOperand operand)
    (rest : List String) :
    parseFrom arguments (operand :: rest) =
      if operand ≠ "-" ∧ arguments.file.isSome then
        .error (.usage ("unexpected argument: " ++ operand))
      else parseFrom { arguments with file := some operand } rest := by
  have hoption := not_mem_of_isOperand hoperand
  simp only [valueOptions, flags, List.mem_append, List.mem_cons, List.not_mem_nil, or_false,
    not_or] at hoption
  rw [parseFrom.eq_def]
  rcases hoperand with rfl | hhead
  · simp
  · have hhyphen : operand ≠ "-" := by rintro rfl; exact hhead rfl
    simp [hhead, hoption, hhyphen]

/-- What reading takes from the arguments in one step. -/
inductive Takes (arguments : Arguments) : List String → Arguments → Prop where
  | option {option : String} {next : Arguments} (hvalue : option ∉ valueOptions)
      (hoption : ¬ IsOperand option) (hfile : next.file = arguments.file) :
      Takes arguments [option] next
  | value {option value : String} {next : Arguments} (hoption : option ∈ valueOptions)
      (hfile : next.file = arguments.file) : Takes arguments [option, value] next
  | operand {operand : String} (hoperand : IsOperand operand)
      (hfirst : operand = "-" ∨ arguments.file = none) :
      Takes arguments [operand] { arguments with file := some operand }

/-- Reading takes something from the arguments and goes on, or it ends there. -/
theorem takes_or_ends (arguments : Arguments) (argument : String) (rest : List String) :
    (∃ taken left next, argument :: rest = taken ++ left ∧ left.length ≤ rest.length ∧
      Takes arguments taken next ∧ GoesOn arguments taken next) ∨
    ∀ last, parseFrom arguments (argument :: rest) ≠ .ok (.run last) := by
  by_cases hvalue : argument ∈ valueOptions
  · cases rest with
    | nil =>
      right
      revert argument
      simp [valueOptions, parseFrom]
    | cons value rest =>
      rcases goesOn_or_ends_value arguments hvalue value with ⟨next, hfile, hgoes⟩ | hends
      · exact .inl ⟨_, rest, next, rfl, by simp, .value hvalue hfile, hgoes⟩
      · exact .inr (hends rest)
  by_cases hoperand : IsOperand argument
  · by_cases hrefused : argument ≠ "-" ∧ arguments.file.isSome
    · exact .inr fun last ↦ by simp [parseFrom_operand arguments hoperand, hrefused]
    · refine .inl ⟨_, rest, _, rfl, Nat.le_refl _, .operand hoperand ?_, fun more ↦ ?_⟩
      · simpa [Decidable.or_iff_not_imp_left] using hrefused
      · rw [List.singleton_append, parseFrom_operand arguments hoperand, if_neg hrefused]
  · rcases goesOn_or_ends_option arguments hvalue hoperand with ⟨next, hfile, hgoes⟩ | hends
    · exact .inl ⟨_, rest, next, rfl, Nat.le_refl _, .option hvalue hoperand hfile, hgoes⟩
    · exact .inr (hends rest)

/-! ## All arguments -/

/-- Reading takes all of the arguments and ends up with arguments to run on. -/
inductive Reads : Arguments → List String → Arguments → Prop where
  | nil {arguments : Arguments} : Reads arguments [] arguments
  | cons {arguments next last : Arguments} {taken rest : List String}
      (htakes : Takes arguments taken next) (hgoes : GoesOn arguments taken next)
      (hrest : Reads next rest last) : Reads arguments (taken ++ rest) last

/-- A command line that is accepted is one whose arguments are accepted in turn. -/
theorem reads_of_parseFrom (h : parseFrom arguments args = .ok (.run last)) :
    Reads arguments args last := by
  -- By the number of arguments left: a step takes one of them or two.
  induction hlength : args.length using Nat.strongRecOn generalizing arguments args with
  | ind length ih =>
    subst hlength
    cases args with
    | nil =>
      obtain rfl : arguments = last := by simpa [parseFrom] using h
      exact .nil
    | cons argument rest =>
      rcases takes_or_ends arguments argument rest with
        ⟨taken, left, next, heq, hlength, htakes, hgoes⟩ | hends
      · rw [heq] at h ⊢
        rw [hgoes left] at h
        refine .cons htakes hgoes (ih _ ?_ h rfl)
        exact Nat.lt_succ_of_le hlength
      · exact absurd h (hends last)

/-- What has been read decides about the arguments that follow. -/
theorem Reads.parseFrom_append (h : Reads arguments args last) (more : List String) :
    parseFrom arguments (args ++ more) = parseFrom last more := by
  induction h with
  | nil => rfl
  | cons _ hgoes _ ih => rw [List.append_assoc, hgoes, ih]

/-- The arguments taken in one step hold one operand at most, which is the file from then on. -/
theorem Takes.operands_append (h : Takes arguments taken next) (rest : List String) :
    (operands (taken ++ rest) = operands rest ∧ next.file = arguments.file) ∨
      ∃ operand, operands (taken ++ rest) = operand :: operands rest ∧
        next.file = some operand ∧ (operand = "-" ∨ arguments.file = none) := by
  cases h with
  | option hvalue hoption hfile => exact .inl ⟨operands_option hvalue hoption rest, hfile⟩
  | value hoption hfile => exact .inl ⟨operands_value hoption _ rest, hfile⟩
  | operand hoperand hfirst => exact .inr ⟨_, operands_operand hoperand rest, rfl, hfirst⟩

/-- The last operand names the file, and without operands it is the file named before. -/
theorem Reads.file_eq (h : Reads arguments args last) :
    last.file = (operands args).getLast?.or arguments.file := by
  induction h with
  | nil => simp [operands]
  | @cons _ _ _ _ rest htakes _ _ ih =>
    rcases htakes.operands_append rest with ⟨hsame, hfile⟩ | ⟨operand, hmore, hfile, -⟩
    · rw [ih, hsame, hfile]
    · rw [ih, hmore, hfile, List.getLast?_cons]
      cases (operands rest).getLast? <;> rfl

/-- Whatever comes as an operand after a file is a hyphen. -/
theorem Reads.eq_hyphen (h : Reads arguments args last) :
    ∀ operand ∈ (arguments.file.toList ++ operands args).tail, operand = "-" := by
  induction h with
  | @nil arguments => cases hfile : arguments.file <;> simp [operands]
  | @cons arguments _ _ _ rest htakes _ _ ih =>
    rcases htakes.operands_append rest with ⟨hsame, hfile⟩ | ⟨operand, hmore, hfile, hfirst⟩
    · rwa [hsame, ← hfile]
    · rw [hfile] at ih
      rw [hmore]
      rcases hfirst with rfl | hnone
      · cases hknown : arguments.file <;> simpa using ih
      · simpa [hnone] using ih

/-- Arguments are read to be run on only if every operand but the first is a hyphen, and the file is
the last of them, or there is none. An operand after arguments that could be run on is refused if it
is not the first one and is a file name; a hyphen takes the place of what came before. -/
theorem parse_operands (args : List String) :
    (∀ last, parse args = .ok (.run last) →
      last.file = (operands args).getLast? ∧ ∀ operand ∈ (operands args).tail, operand = "-") ∧
    ∀ before operand after last, args = before ++ operand :: after →
      parse before = .ok (.run last) → IsOperand operand →
      parse args =
        if operand ≠ "-" ∧ operands before ≠ [] then
          .error (.usage ("unexpected argument: " ++ operand))
        else parseFrom { last with file := some operand } after := by
  refine ⟨fun last hrun ↦ ?_, fun before operand after last hargs hrun hoperand ↦ ?_⟩
  · have hreads := reads_of_parseFrom hrun
    exact ⟨by simpa using hreads.file_eq, by simpa using hreads.eq_hyphen⟩
  · have hreads := reads_of_parseFrom hrun
    have hknown : last.file.isSome ↔ operands before ≠ [] := by simp [hreads.file_eq]
    rw [hargs, parse, hreads.parseFrom_append, parseFrom_operand _ hoperand]
    simp only [hknown]

theorem parse_operands_hyphen_twice :
    operands ["-", "-t", "4", "-"] = ["-", "-"] ∧
    (∃ last, parse ["-", "-t", "4", "-"] = .ok (.run last) ∧ last.file = some "-") ∧
    parse ["-", "-t", "4", "a"] = .error (.usage "unexpected argument: a") := by
  let last : Arguments := { tabWidth := some 4, file := some "-" }
  have hbefore : parse ["-", "-t", "4"] = .ok (.run last) := rfl
  have hrun : parse ["-", "-t", "4", "-"] = .ok (.run last) := rfl
  refine ⟨by decide, ⟨_, hrun, ?_⟩, ?_⟩
  · exact ((parse_operands _).1 _ hrun).1.trans (by decide)
  · have hrefused := (parse_operands ["-", "-t", "4", "a"]).2 ["-", "-t", "4"] "a" [] _ rfl hbefore
    exact (hrefused (by decide)).trans rfl

/-- The list has two operands and is read all the same: standard input takes the place of the file
named before it. -/
theorem hyphen_replaces_file :
    operands ["a", "-"] = ["a", "-"] ∧ parse ["a", "-"] = .ok (.run { file := some "-" }) :=
  ⟨by decide, rfl⟩

end LineLexer.CommandLine
