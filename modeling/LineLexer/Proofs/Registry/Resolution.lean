import LineLexer.Proofs.Outcome
import LineLexer.Registry.Basic
import Mathlib.Data.List.Nodup

/-!
# Following aliases

From a specification a walk leads on as long as its name is an alias, and from a name of the form
`kind/base+xml` that is none to the MIME type of XML. There are finitely many aliases, so a walk
either stops or comes back to an alias. Resolution fails exactly in the second case, and names the
aliases of the walk up to the first that it passes again.
-/

namespace LineLexer

def Spec.title : Spec → String
  | .name title => title
  | .config entry => entry.name

namespace Registry

/-! ## MIME types of XML -/

/-- Letters, digits, underscores and dashes, at least one of them. -/
def IsPart (part : List Char) : Prop :=
  part ≠ [] ∧ ∀ c ∈ part, c.isAlphanum = true ∨ c = '_' ∨ c = '-'

/-- A name of the form `kind/base+xml`. -/
def IsXmlType (name : String) : Prop :=
  ∃ kind base, name.toList = kind ++ '/' :: (base ++ ['+', 'x', 'm', 'l']) ∧
    IsPart kind ∧ IsPart base

theorem isMimePart_iff {part : List Char} : isMimePart part = true ↔ IsPart part := by
  simp [isMimePart, IsPart, or_assoc]

theorem IsPart.ne_slash {part : List Char} (h : IsPart part) {c : Char} (hmem : c ∈ part) :
    c ≠ '/' := by
  rintro rfl
  have hslash : ¬ ('/'.isAlphanum = true ∨ '/' = '_' ∨ '/' = '-') := by decide
  exact hslash (h.2 '/' hmem)

theorem isXmlType_of_isCustomXmlMime {name : String} (h : isCustomXmlMime name = true) :
    IsXmlType name := by
  have hsplit : name.toList.takeWhile (· != '/') ++ name.toList.dropWhile (· != '/') =
      name.toList := List.takeWhile_append_dropWhile
  simp only [isCustomXmlMime] at h
  split at h
  · cases h
  · rename_i slash subtype hdrop
    have hslash : slash = '/' := by
      have hhead := List.head?_dropWhile_not (· != '/') name.toList
      rw [hdrop] at hhead
      simpa using hhead
    simp only [Bool.and_eq_true, beq_iff_eq] at h
    obtain ⟨⟨hxml, hkind⟩, hbase⟩ := h
    refine ⟨_, _, ?_, isMimePart_iff.1 hkind, isMimePart_iff.1 hbase⟩
    rw [← hxml, List.take_append_drop]
    rw [hdrop, hslash] at hsplit
    exact hsplit.symm

theorem isCustomXmlMime_of_isXmlType {name : String} (h : IsXmlType name) :
    isCustomXmlMime name = true := by
  obtain ⟨kind, base, hname, hkind, hbase⟩ := h
  have hkept : ∀ c ∈ kind, (c != '/') = true := fun c hmem ↦ by simpa using hkind.ne_slash hmem
  have htake : name.toList.takeWhile (· != '/') = kind := by
    rw [hname, List.takeWhile_append_of_pos hkept]
    simp
  have hdrop : name.toList.dropWhile (· != '/') = '/' :: (base ++ ['+', 'x', 'm', 'l']) := by
    rw [hname, List.dropWhile_append_of_pos hkept]
    simp
  have hlength : (base ++ ['+', 'x', 'm', 'l']).length - 4 = base.length := by simp
  simp only [isCustomXmlMime, htake, hdrop, hlength, List.take_left, List.drop_left,
    isMimePart_iff.2 hkind, isMimePart_iff.2 hbase, beq_self_eq_true, Bool.and_self]

theorem isCustomXmlMime_iff {name : String} : isCustomXmlMime name = true ↔ IsXmlType name :=
  ⟨isXmlType_of_isCustomXmlMime, isCustomXmlMime_of_isXmlType⟩

/-- The type that these are read as is none of them. -/
theorem not_isXmlType_xmlMime : ¬ IsXmlType xmlMime := by
  rw [← isCustomXmlMime_iff]
  decide

/-! ## Walks -/

/-- A walk from a specification to another, with the aliases it passes in their order. -/
inductive Walk (mimes : Table Spec) : Spec → List String → Spec → Prop where
  | here (spec : Spec) : Walk mimes spec [] spec
  | follow {spec next last : Spec} {passed : List String}
      (hfind : mimes.find? spec.title = some next) (hrest : Walk mimes next passed last) :
      Walk mimes spec (spec.title :: passed) last
  | xml {name : String} {last : Spec} {passed : List String} (hfind : mimes.find? name = none)
      (hname : IsXmlType name) (hrest : Walk mimes (.name xmlMime) passed last) :
      Walk mimes (.name name) passed last

def Stops (mimes : Table Spec) (spec : Spec) : Prop :=
  mimes.find? spec.title = none ∧ ∀ name, spec = .name name → ¬ IsXmlType name

/-- Some walk passes an alias twice. -/
def PassesTwice (mimes : Table Spec) (spec : Spec) : Prop :=
  ∃ passed last, Walk mimes spec passed last ∧ ¬ passed.Nodup

/-- Every walk leads on. -/
def NeverStops (mimes : Table Spec) (spec : Spec) : Prop :=
  ∀ passed last, Walk mimes spec passed last → ¬ Stops mimes last

/-- The aliases that a walk passes, up to the first that it has passed before. -/
def ClosesCycle (mimes : Table Spec) (spec : Spec) (chain : List String) : Prop :=
  ∃ passed name last, chain = passed ++ [name] ∧ passed.Nodup ∧ name ∈ passed ∧
    Walk mimes spec chain last

namespace Walk

variable {mimes : Table Spec} {spec last other : Spec} {passed passed' : List String}

/-- Of two walks from one specification, one goes on from the other. -/
theorem goesOn (h : Walk mimes spec passed last) (hother : Walk mimes spec passed' other) :
    (∃ later, passed' = passed ++ later ∧ Walk mimes last later other) ∨
      ∃ later, passed = passed' ++ later ∧ Walk mimes other later last := by
  induction h generalizing passed' with
  | here spec => exact .inl ⟨passed', rfl, hother⟩
  | @follow spec next last passed hfind hrest ih =>
    cases hother with
    | here => exact .inr ⟨_, rfl, .follow hfind hrest⟩
    | follow hfind' hrest' =>
      cases hfind.symm.trans hfind'
      rcases ih hrest' with ⟨later, rfl, hlater⟩ | ⟨later, rfl, hlater⟩
      · exact .inl ⟨later, rfl, hlater⟩
      · exact .inr ⟨later, rfl, hlater⟩
    | xml hnone => cases hnone.symm.trans hfind
  | xml hfind hname hrest ih =>
    cases hother with
    | here => exact .inr ⟨_, rfl, .xml hfind hname hrest⟩
    | follow hfind' => cases hfind.symm.trans hfind'
    | xml _ _ hrest' => exact ih hrest'

theorem eq_nil_of_stops (h : Walk mimes spec passed last) (hstops : Stops mimes spec) :
    passed = [] := by
  cases h with
  | here => rfl
  | follow hfind => cases hstops.1.symm.trans hfind
  | xml _ hname => exact absurd hname (hstops.2 _ rfl)

/-- Where it stops a walk ends. -/
theorem eq_of_stops (h : Walk mimes spec passed last) (hstops : Stops mimes spec) : last = spec := by
  cases h with
  | here => rfl
  | follow hfind => cases hstops.1.symm.trans hfind
  | xml _ hname => exact absurd hname (hstops.2 _ rfl)

/-- A walk that stops goes on from every walk that begins where it does. -/
theorem prefix_of_stops (h : Walk mimes spec passed last) (hstops : Stops mimes last)
    (hother : Walk mimes spec passed' other) : passed' <+: passed := by
  rcases h.goesOn hother with ⟨later, rfl, hlater⟩ | ⟨later, rfl, _⟩
  · have hnil : later = [] := hlater.eq_nil_of_stops hstops
    simp [hnil]
  · exact List.prefix_append passed' later

/-- Only one walk from a specification stops. -/
theorem unique (h : Walk mimes spec passed last) (hstops : Stops mimes last)
    (hother : Walk mimes spec passed' other) (hends : Stops mimes other) :
    passed = passed' ∧ last = other := by
  rcases h.goesOn hother with ⟨later, rfl, hlater⟩ | ⟨later, rfl, hlater⟩
  · have hnil : later = [] := hlater.eq_nil_of_stops hstops
    exact ⟨by rw [hnil, List.append_nil], (hlater.eq_of_stops hstops).symm⟩
  · have hnil : later = [] := hlater.eq_nil_of_stops hends
    exact ⟨by rw [hnil, List.append_nil], hlater.eq_of_stops hends⟩

/-- Of two walks from one specification one begins the other. -/
theorem begins_or_begins (h : Walk mimes spec passed last)
    (hother : Walk mimes spec passed' other) : passed <+: passed' ∨ passed' <+: passed := by
  rcases h.goesOn hother with ⟨later, rfl, _⟩ | ⟨later, rfl, _⟩
  · exact .inl (List.prefix_append passed later)
  · exact .inr (List.prefix_append passed' later)

/-- From an alias on its way a walk leads on as from where the alias leads. -/
theorem exists_of_mem (h : Walk mimes spec passed last) {name : String} (hmem : name ∈ passed)
    {next : Spec} (hnext : mimes.find? name = some next) :
    ∃ later, later.length < passed.length ∧ Walk mimes next later last := by
  induction h with
  | here => cases hmem
  | @follow spec found last passed hfind hrest ih =>
    rcases List.mem_cons.1 hmem with rfl | hin
    · cases hfind.symm.trans hnext
      exact ⟨passed, Nat.lt_succ_self _, hrest⟩
    · obtain ⟨later, hshorter, hlater⟩ := ih hin
      exact ⟨later, Nat.lt_succ_of_lt hshorter, hlater⟩
  | xml _ _ _ ih => exact ih hmem

/-- A walk that stops passes no alias twice: the way on from an alias would have two lengths. -/
theorem nodup_of_stops (h : Walk mimes spec passed last) (hstops : Stops mimes last) :
    passed.Nodup := by
  induction h with
  | here => exact List.nodup_nil
  | @follow spec next last passed hfind hrest ih =>
    refine List.nodup_cons.2 ⟨fun hmem ↦ ?_, ih hstops⟩
    obtain ⟨later, hshorter, hlater⟩ := hrest.exists_of_mem hmem hfind
    have hbegins := hlater.prefix_of_stops hstops hrest
    exact absurd hbegins.length_le (Nat.not_le.2 hshorter)
  | xml _ _ _ ih => exact ih hstops

/-- A walk that stops passes no alias twice. -/
theorem not_passesTwice (h : Walk mimes spec passed last) (hstops : Stops mimes last) :
    ¬ PassesTwice mimes spec := by
  rintro ⟨passed', other, hother, htwice⟩
  exact htwice ((h.nodup_of_stops hstops).sublist (h.prefix_of_stops hstops hother).sublist)

end Walk

namespace ClosesCycle

variable {mimes : Table Spec} {spec : Spec} {chain chain' : List String}

theorem passesTwice (h : ClosesCycle mimes spec chain) : PassesTwice mimes spec := by
  obtain ⟨passed, name, last, rfl, _, hname, hwalk⟩ := h
  refine ⟨_, last, hwalk, fun hnodup ↦ ?_⟩
  exact (List.nodup_append_comm.1 hnodup).notMem hname

/-- A cycle closes once. -/
theorem eq_of_begins (h : ClosesCycle mimes spec chain) (h' : ClosesCycle mimes spec chain')
    (hbegins : chain <+: chain') : chain = chain' := by
  obtain ⟨passed, name, _, rfl, _, hname, _⟩ := h
  obtain ⟨passed', name', _, rfl, hnodup', _, _⟩ := h'
  rcases List.prefix_concat_iff.1 hbegins with heq | hshorter
  · exact heq
  · have hnodup := hnodup'.sublist hshorter.sublist
    exact absurd hname (List.nodup_append_comm.1 hnodup).notMem

/-- The cycle is closed only once. -/
theorem unique (h : ClosesCycle mimes spec chain) (h' : ClosesCycle mimes spec chain') :
    chain = chain' := by
  obtain ⟨_, _, _, _, _, _, hwalk⟩ := id h
  obtain ⟨_, _, _, _, _, _, hwalk'⟩ := id h'
  rcases hwalk.begins_or_begins hwalk' with hbegins | hbegins
  · exact h.eq_of_begins h' hbegins
  · exact (h'.eq_of_begins h hbegins).symm

end ClosesCycle

/-! ## Resolution -/

variable {mimes : Table Spec} {seen : List String} {spec : Spec}

/-- A name that is no alias is what resolution ends in. -/
theorem resolveFrom_of_find?_eq_none (h : mimes.find? (lookupName mimes spec) = none) :
    resolveFrom mimes seen spec = .ok (configOf (lookupName mimes spec) spec) := by
  rw [resolveFrom]
  split
  · rfl
  · rename_i next hnext
    cases h.symm.trans hnext

/-- A new alias is passed. -/
theorem resolveFrom_of_find?_eq_some {next : Spec}
    (h : mimes.find? (lookupName mimes spec) = some next) (hseen : lookupName mimes spec ∉ seen) :
    resolveFrom mimes seen spec =
      (resolveFrom mimes (seen ++ [lookupName mimes spec]) next).map (overlaySpec · spec) := by
  rw [resolveFrom]
  split
  · rename_i hnone
    cases h.symm.trans hnone
  · rename_i found hfound
    cases h.symm.trans hfound
    rw [dif_neg hseen]

/-- An alias that has been passed is refused, with the chain up to it. -/
theorem resolveFrom_of_mem {next : Spec} (h : mimes.find? (lookupName mimes spec) = some next)
    (hseen : lookupName mimes spec ∈ seen) :
    resolveFrom mimes seen spec = .error (.aliasCycle (seen ++ [lookupName mimes spec])) := by
  rw [resolveFrom]
  split
  · rename_i hnone
    cases hnone.symm.trans h
  · rw [dif_pos hseen]

/-- The name looked up is the specification's own, or that of XML for a name that leads there. -/
theorem lookupName_cases (mimes : Table Spec) (spec : Spec) :
    lookupName mimes spec = spec.title ∧
        (mimes.find? spec.title = none → ∀ name, spec = .name name → ¬ IsXmlType name) ∨
      ∃ name, spec = .name name ∧ mimes.find? name = none ∧ IsXmlType name ∧
        lookupName mimes spec = xmlMime := by
  cases spec with
  | config config => exact .inl ⟨rfl, fun _ _ hspec ↦ by cases hspec⟩
  | name name =>
    by_cases hxml : mimes.find? name = none ∧ IsXmlType name
    · refine .inr ⟨name, rfl, hxml.1, hxml.2, ?_⟩
      simp [lookupName, Table.contains, hxml.1, isCustomXmlMime_iff.2 hxml.2]
    · refine .inl ⟨?_, fun hnone other hother hname ↦ ?_⟩
      · rw [← isCustomXmlMime_iff] at hxml
        simp [lookupName, Spec.title, Table.contains, hxml]
      · cases hother
        exact hxml ⟨hnone, hname⟩

theorem Walk.of_lookupName {next last : Spec} {passed : List String}
    (hfind : mimes.find? (lookupName mimes spec) = some next)
    (hrest : Walk mimes next passed last) :
    Walk mimes spec (lookupName mimes spec :: passed) last := by
  rcases lookupName_cases mimes spec with ⟨hname, _⟩ | ⟨name, rfl, hnone, hxml, hname⟩
  · rw [hname] at hfind ⊢
    exact .follow hfind hrest
  · rw [hname] at hfind ⊢
    have hlast : Walk mimes (.name xmlMime) (xmlMime :: passed) last := .follow hfind hrest
    exact .xml hnone hxml hlast

/-- A walk stops at the name looked up if that is no alias. -/
theorem exists_stop (hfind : mimes.find? (lookupName mimes spec) = none) :
    ∃ last, Walk mimes spec [] last ∧ Stops mimes last ∧
      (configOf (lookupName mimes spec) spec).name = last.title := by
  rcases lookupName_cases mimes spec with ⟨hname, hstop⟩ | ⟨name, rfl, hnone, hxml, hname⟩
  · rw [hname] at hfind ⊢
    refine ⟨spec, .here spec, ⟨hfind, hstop hfind⟩, ?_⟩
    cases spec <;> rfl
  · rw [hname] at hfind ⊢
    refine ⟨.name xmlMime, .xml hnone hxml (.here _), ⟨hfind, ?_⟩, rfl⟩
    rintro _ ⟨⟩
    exact not_isXmlType_xmlMime

theorem name_overlaySpec (base : ModeConfig) (spec : Spec) :
    (overlaySpec base spec).name = base.name := by
  cases spec <;> rfl

/-- Resolution past the aliases `seen` stops where a walk stops, or fails at the first alias of the
walk that has been passed. -/
theorem resolveFrom_cases (mimes : Table Spec) {seen : List String} (hseen : seen.Nodup)
    (spec : Spec) :
    (∃ config passed last, resolveFrom mimes seen spec = .ok config ∧
        Walk mimes spec passed last ∧ Stops mimes last ∧ config.name = last.title) ∨
      ∃ passed name last,
        resolveFrom mimes seen spec = .error (.aliasCycle (seen ++ (passed ++ [name]))) ∧
          Walk mimes spec (passed ++ [name]) last ∧ (seen ++ passed).Nodup ∧
          name ∈ seen ++ passed := by
  fun_induction resolveFrom mimes seen spec with
  | case1 seen spec name hfind =>
    obtain ⟨last, hwalk, hstops, hname⟩ := exists_stop hfind
    exact .inl ⟨_, [], last, rfl, hwalk, hstops, hname⟩
  | case2 seen spec name next hfind hmem =>
    refine .inr ⟨[], name, next, rfl, .of_lookupName hfind (.here next), ?_, ?_⟩
    · rw [List.append_nil]
      exact hseen
    · rw [List.append_nil]
      exact hmem
  | case3 seen spec name next hfind hnew ih =>
    have hnodup : (seen ++ [name]).Nodup :=
      List.nodup_append_comm.1 (List.nodup_cons.2 ⟨hnew, hseen⟩)
    rcases ih hnodup with ⟨config, passed, last, hok, hwalk, hstops, hname⟩ |
      ⟨passed, again, last, herror, hwalk, hpassed, hagain⟩
    · rw [hok]
      refine .inl ⟨_, _, last, rfl, .of_lookupName hfind hwalk, hstops, ?_⟩
      exact (name_overlaySpec config spec).trans hname
    · rw [herror]
      rw [List.append_assoc] at hpassed hagain
      refine .inr ⟨name :: passed, again, last, ?_, .of_lookupName hfind hwalk, hpassed, hagain⟩
      simp

/-- Resolution ends for every specification. It fails if and only if the walk passes an alias twice,
which is to say that it never stops, and then names the aliases up to the first one passed again.
Otherwise it gives a configuration under the name where the walk stops; that name is no alias, and
the configuration resolves to itself. -/
theorem resolve_rejects_cycles (registry : Registry) (spec : Spec) :
    (∀ chain, registry.resolve spec = .error (.aliasCycle chain) ↔
        ClosesCycle registry.mimes spec chain) ∧
      ((∃ chain, registry.resolve spec = .error (.aliasCycle chain)) ↔
        PassesTwice registry.mimes spec) ∧
      (PassesTwice registry.mimes spec ↔ NeverStops registry.mimes spec) ∧
      (PassesTwice registry.mimes spec ∨
        ∃ config passed last, registry.resolve spec = .ok config ∧
          Walk registry.mimes spec passed last ∧ Stops registry.mimes last ∧
          config.name = last.title ∧ registry.mimes.find? config.name = none ∧
          registry.resolve (.config config) = .ok config) := by
  rcases resolveFrom_cases registry.mimes List.nodup_nil spec with
    ⟨config, passed, last, hok, hwalk, hstops, hname⟩ |
    ⟨passed, name, last, herror, hwalk, hpassed, hagain⟩
  · have hresolve : registry.resolve spec = .ok config := hok
    have honce := hwalk.not_passesTwice hstops
    have hfind : registry.mimes.find? config.name = none := by
      rw [hname]
      exact hstops.1
    have hagain : registry.resolve (.config config) = .ok config :=
      resolveFrom_of_find?_eq_none hfind
    refine ⟨fun chain ↦ ?_, ?_, ?_, .inr ⟨config, passed, last, hresolve, hwalk, hstops, hname,
      hfind, hagain⟩⟩
    · exact iff_of_false (by simp [hresolve]) fun hcycle ↦ honce hcycle.passesTwice
    · exact iff_of_false (by simp [hresolve]) honce
    · exact iff_of_false honce fun hnever ↦ hnever passed last hwalk hstops
  · have hresolve : registry.resolve spec = .error (.aliasCycle (passed ++ [name])) := herror
    have hcycle : ClosesCycle registry.mimes spec (passed ++ [name]) :=
      ⟨passed, name, last, rfl, hpassed, hagain, hwalk⟩
    have htwice := hcycle.passesTwice
    refine ⟨fun chain ↦ ?_, iff_of_true ⟨_, hresolve⟩ htwice, iff_of_true htwice ?_, .inl htwice⟩
    · rw [hresolve]
      constructor
      · rintro ⟨⟩
        exact hcycle
      · intro hother
        rw [hcycle.unique hother]
    · intro _ last' hwalk' hstops
      exact hwalk'.not_passesTwice hstops htwice

end Registry

end LineLexer
