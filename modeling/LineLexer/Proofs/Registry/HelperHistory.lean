import LineLexer.Registry.Helper
import Mathlib.Data.List.Induction
import Mathlib.Data.List.Nodup

/-!
# Helpers and the history of their registration

Every registration makes a helper with an identity of its own. A name leads to the helper that was
registered last under it, while a global helper stays global also after its name has gone to another
one. What is found for a mode is told by the history of registrations: the helper under the mode's
name and the global ones that apply, each once, and registrations of other categories do not matter.
-/

namespace LineLexer

/-! ## Histories -/

/-- A registration, under a name and, where it is global, for the modes that a predicate accepts. -/
structure HelperRegistration where
  category : String
  name : String
  value : HelperValue
  applies : Option (Mode → String → Bool) := none

namespace HelperRegistration

def accepts (registration : HelperRegistration) (mode : Mode) (context : String) : Bool :=
  registration.applies.any fun applies ↦ applies mode context

def apply (registry : HelperRegistry) (registration : HelperRegistration) : HelperRegistry :=
  match registration.applies with
  | none => registry.register registration.category registration.name registration.value
  | some applies =>
    registry.registerGlobal registration.category registration.name applies registration.value

end HelperRegistration

/-- A registration and the helper it has made. -/
structure Registered where
  registration : HelperRegistration
  helper : Helper

/-- The registrations of a history with their helpers: the identity of each is its place. -/
def registered (history : List HelperRegistration) : List Registered :=
  history.zipIdx.map fun (registration, id) ↦ ⟨registration, ⟨id, registration.value⟩⟩

def registeredIn (category : String) (history : List HelperRegistration) : List Registered :=
  (registered history).filter (·.registration.category = category)

/-- The helper registered last under a name. -/
def lastNamed? (entries : List Registered) (name : String) : Option Helper :=
  ((entries.filter (·.registration.name = name)).getLast?).map Registered.helper

/-- The global helpers that apply to a mode, in the order of registration. -/
def accepted (entries : List Registered) (mode : Mode) (context : String) : List Helper :=
  (entries.filter (·.registration.accepts mode context)).map Registered.helper

theorem registered_concat (history : List HelperRegistration) (registration : HelperRegistration) :
    registered (history ++ [registration]) =
      registered history ++ [⟨registration, ⟨history.length, registration.value⟩⟩] := by
  simp [registered, List.zipIdx_append]

/-- A registration is the last of its category, and none of the others. -/
theorem registeredIn_concat (category : String) (history : List HelperRegistration)
    (registration : HelperRegistration) :
    registeredIn category (history ++ [registration]) =
      registeredIn category history ++
        if registration.category = category then
          [⟨registration, ⟨history.length, registration.value⟩⟩]
        else [] := by
  rw [registeredIn, registered_concat, List.filter_append, ← registeredIn]
  split <;> simp_all

/-- Identities count the registrations. -/
theorem map_id_registered (history : List HelperRegistration) :
    (registered history).map (·.helper.id) = List.range history.length := by
  rw [registered, List.map_map, List.range_eq_range', ← List.zipIdx_map_snd]
  rfl

/-- They lie below the number of registrations. -/
theorem id_lt_of_mem_registered {history : List HelperRegistration} {entry : Registered}
    (h : entry ∈ registered history) : entry.helper.id < history.length := by
  have hid : entry.helper.id ∈ (registered history).map (·.helper.id) := List.mem_map_of_mem h
  rw [map_id_registered] at hid
  exact List.mem_range.1 hid

/-- No two registrations make helpers of one identity. -/
theorem nodup_registeredIn (category : String) (history : List HelperRegistration) :
    ((registeredIn category history).map (·.helper.id)).Nodup := by
  have hall : ((registered history).map (·.helper.id)).Nodup := by
    rw [map_id_registered]
    exact List.nodup_range
  exact hall.sublist (List.filter_sublist.map _)

namespace HelperCategory

def add (found : HelperCategory) (entry : Registered) : HelperCategory where
  byName := found.byName.insert entry.registration.name entry.helper
  global := found.global ++ (entry.registration.applies.map (⟨·, entry.helper⟩)).toList

end HelperCategory

namespace HelperRegistry

def ofHistory (history : List HelperRegistration) : HelperRegistry :=
  history.foldl HelperRegistration.apply {}

/-- What is registered in a category, which is empty before its first helper. -/
def category (registry : HelperRegistry) (name : String) : HelperCategory :=
  (registry.categories.find? name).getD {}

variable (registry : HelperRegistry)

theorem find?_eq (category name : String) :
    registry.find? category name = (registry.category category).byName.find? name := by
  unfold find? HelperRegistry.category
  cases registry.categories.find? category <;> rfl

theorem globalMatches_eq (category : String) (mode : Mode) (context : String) :
    registry.globalMatches category mode context =
      ((registry.category category).global.filter fun global ↦ global.applies mode context).map
        GlobalHelper.helper := by
  unfold globalMatches HelperRegistry.category
  cases registry.categories.find? category <;> rfl

/-! ## What a registration does -/

/-- A registration adds a new helper to its category and leaves the others. -/
theorem category_apply (registration : HelperRegistration) (name : String) :
    (registration.apply registry).category name =
      if registration.category = name then
        (registry.category name).add ⟨registration, ⟨registry.nextId, registration.value⟩⟩
      else registry.category name := by
  obtain ⟨category, key, value, applies⟩ := registration
  by_cases hname : category = name
  · subst hname
    cases applies <;>
      simp [HelperRegistration.apply, register, registerGlobal, updateCategory,
        HelperRegistry.category, HelperCategory.add, Table.find?_insert]
  · cases applies <;>
      simp [HelperRegistration.apply, register, registerGlobal, updateCategory,
        HelperRegistry.category, Table.find?_insert, hname, Ne.symm hname]

theorem nextId_apply (registration : HelperRegistration) :
    (registration.apply registry).nextId = registry.nextId + 1 := by
  obtain ⟨_, _, _, applies⟩ := registration
  cases applies <;> rfl

theorem ofHistory_concat (history : List HelperRegistration) (registration : HelperRegistration) :
    ofHistory (history ++ [registration]) = registration.apply (ofHistory history) := by
  simp [ofHistory]

/-- The next identity is the number of registrations so far. -/
theorem nextId_ofHistory (history : List HelperRegistration) :
    (ofHistory history).nextId = history.length := by
  induction history using List.reverseRecOn with
  | nil => rfl
  | append_singleton history registration ih =>
    rw [ofHistory_concat, nextId_apply, ih, List.length_append, List.length_singleton]

/-- A category holds what has been registered in it, one after the other. -/
theorem category_ofHistory (history : List HelperRegistration) (name : String) :
    (ofHistory history).category name =
      (registeredIn name history).foldl HelperCategory.add {} := by
  induction history using List.reverseRecOn with
  | nil => rfl
  | append_singleton history registration ih =>
    rw [ofHistory_concat, category_apply, ih, registeredIn_concat, nextId_ofHistory,
      List.foldl_append]
    split <;> rfl

/-! ## What is found -/

/-- A name finds the last helper that was registered under it. -/
theorem find?_foldl_add (entries : List Registered) (name : String) :
    (entries.foldl HelperCategory.add {}).byName.find? name = lastNamed? entries name := by
  induction entries using List.reverseRecOn with
  | nil => rfl
  | append_singleton entries entry ih =>
    rw [List.foldl_append, List.foldl_cons, List.foldl_nil, HelperCategory.add, Table.find?_insert,
      ih, lastNamed?, lastNamed?, List.filter_append]
    by_cases hname : entry.registration.name = name
    · subst hname
      simp
    · simp [hname, Ne.symm hname]

/-- The helpers that apply are found in the order of registration. -/
theorem global_foldl_add (entries : List Registered) (mode : Mode) (context : String) :
    ((entries.foldl HelperCategory.add {}).global.filter fun global ↦
        global.applies mode context).map GlobalHelper.helper =
      accepted entries mode context := by
  induction entries using List.reverseRecOn with
  | nil => rfl
  | append_singleton entries entry ih =>
    obtain ⟨⟨category, name, value, applies⟩, helper⟩ := entry
    rw [List.foldl_append, List.foldl_cons, List.foldl_nil, HelperCategory.add, List.filter_append,
      List.map_append, ih, accepted, accepted, List.filter_append, List.map_append]
    cases applies with
    | none => rfl
    | some applies =>
      cases happlies : applies mode context <;> simp [HelperRegistration.accepts, happlies]

/-- A search by name is told from the history of the category. -/
theorem find?_ofHistory (history : List HelperRegistration) (category name : String) :
    (ofHistory history).find? category name = lastNamed? (registeredIn category history) name := by
  rw [find?_eq, category_ofHistory, find?_foldl_add]

theorem globalMatches_ofHistory (history : List HelperRegistration) (category : String)
    (mode : Mode) (context : String) :
    (ofHistory history).globalMatches category mode context =
      accepted (registeredIn category history) mode context := by
  rw [globalMatches_eq, category_ofHistory, global_foldl_add]

/-- Helpers of different identities are added where theirs is not there yet. -/
theorem foldl_unless_found {helpers : List Helper} (h : (helpers.map Helper.id).Nodup)
    (found : List Helper) :
    helpers.foldl (fun found helper ↦
        if found.any (·.id == helper.id) then found else found ++ [helper]) found =
      found ++ helpers.filter fun helper ↦ helper.id ∉ found.map Helper.id := by
  induction helpers generalizing found with
  | nil => simp
  | cons helper helpers ih =>
    obtain ⟨hnew, hrest⟩ := List.nodup_cons.1 h
    have hany : found.any (·.id == helper.id) = true ↔ helper.id ∈ found.map Helper.id := by
      simp
    rw [List.foldl_cons]
    by_cases hfound : helper.id ∈ found.map Helper.id
    · rw [if_pos (hany.2 hfound), ih hrest, List.filter_cons_of_neg (by simpa using hfound)]
    · have hothers : ∀ other ∈ helpers, decide (other.id ∉ (found ++ [helper]).map Helper.id) =
          decide (other.id ∉ found.map Helper.id) := by
        intro other hother
        have hne : other.id ≠ helper.id := fun hid ↦ hnew (hid ▸ List.mem_map_of_mem hother)
        simp [hne]
      rw [if_neg (mt hany.1 hfound), ih hrest, List.filter_cons_of_pos (by simpa using hfound),
        List.filter_congr hothers, List.append_assoc, List.singleton_append]

end HelperRegistry

/-! ## Helpers for a mode -/

/-- The helper under a name and then the other global ones that apply. -/
def applicable (entries : List Registered) (name : String) (mode : Mode) (context : String) :
    List Helper :=
  (lastNamed? entries name).toList ++
    (accepted entries mode context).filter fun helper ↦ some helper ≠ lastNamed? entries name

section Entries

variable {entries : List Registered} {name : String} {mode : Mode} {context : String}
  {helper : Helper}

theorem exists_of_mem_accepted (h : helper ∈ accepted entries mode context) :
    ∃ entry ∈ entries, entry.helper = helper := by
  obtain ⟨entry, hentry, rfl⟩ := List.mem_map.1 h
  exact ⟨entry, List.mem_of_mem_filter hentry, rfl⟩

theorem exists_of_lastNamed? (h : lastNamed? entries name = some helper) :
    ∃ entry ∈ entries, entry.helper = helper := by
  obtain ⟨entry, hentry, rfl⟩ := Option.map_eq_some_iff.1 h
  exact ⟨entry, List.mem_of_mem_filter (List.mem_of_getLast? hentry), rfl⟩

/-- Among helpers that are all of different identities, the identity tells the helper. -/
theorem eq_of_id_eq (hentries : (entries.map (·.helper.id)).Nodup) {other : Helper}
    (h : ∃ entry ∈ entries, entry.helper = helper) (h' : ∃ entry ∈ entries, entry.helper = other)
    (hid : helper.id = other.id) : helper = other := by
  obtain ⟨entry, hentry, rfl⟩ := h
  obtain ⟨entry', hentry', rfl⟩ := h'
  rw [List.inj_on_of_nodup_map hentries hentry hentry' hid]

/-- No helper is accepted twice if identities are fresh. -/
theorem nodup_accepted (hentries : (entries.map (·.helper.id)).Nodup) :
    ((accepted entries mode context).map Helper.id).Nodup := by
  rw [accepted, List.map_map]
  exact hentries.sublist (List.filter_sublist.map _)

/-- To pass a helper over for its identity is to pass over the one under the name. -/
theorem applicable_eq (hentries : (entries.map (·.helper.id)).Nodup) :
    applicable entries name mode context =
      (lastNamed? entries name).toList ++ (accepted entries mode context).filter fun helper ↦
        helper.id ∉ (lastNamed? entries name).toList.map Helper.id := by
  rw [applicable]
  congr 1
  apply List.filter_congr
  intro helper hhelper
  cases hnamed : lastNamed? entries name with
  | none => rfl
  | some named =>
    have hsame : helper.id = named.id ↔ helper = named :=
      ⟨eq_of_id_eq hentries (exists_of_mem_accepted hhelper) (exists_of_lastNamed? hnamed),
        congrArg Helper.id⟩
    simp [hsame]

/-- Nor is one found twice, by name and by predicate. -/
theorem nodup_applicable (hentries : (entries.map (·.helper.id)).Nodup) :
    ((applicable entries name mode context).map Helper.id).Nodup := by
  rw [applicable_eq hentries, List.map_append, List.nodup_append]
  refine ⟨?_, ?_, ?_⟩
  · cases lastNamed? entries name with
    | none => exact List.nodup_nil
    | some named => exact List.nodup_singleton _
  · exact (nodup_accepted hentries).sublist (List.filter_sublist.map _)
  · intro id hid other hother hsame
    obtain ⟨helper, hhelper, rfl⟩ := List.mem_map.1 hother
    rw [hsame] at hid
    simpa [hid] using List.of_mem_filter hhelper

/-- A helper is found by its name or by its predicate. -/
theorem mem_applicable :
    helper ∈ applicable entries name mode context ↔
      helper ∈ lastNamed? entries name ∨ helper ∈ accepted entries mode context := by
  rw [applicable, List.mem_append, List.mem_filter, Option.mem_toList, Option.mem_def,
    decide_eq_true_iff]
  by_cases hnamed : lastNamed? entries name = some helper <;> simp [hnamed, eq_comm]

end Entries

/-! ## Registrations of other categories -/

section Categories

variable {entries : List Registered} (name : String) (mode : Mode) (context : String)
  (change : Helper → Helper)

def Registered.mapHelper (entry : Registered) : Registered :=
  { entry with helper := change entry.helper }

theorem lastNamed?_map :
    lastNamed? (entries.map (.mapHelper change)) name = (lastNamed? entries name).map change := by
  simp only [lastNamed?, List.filter_map, List.getLast?_map, Option.map_map]
  rfl

theorem accepted_map :
    accepted (entries.map (.mapHelper change)) mode context =
      (accepted entries mode context).map change := by
  simp only [accepted, List.filter_map, List.map_map]
  rfl

variable {change}

/-- Other identities find the same helpers, as long as they are different ones. -/
theorem applicable_map
    (hchange : ∀ helper other, (∃ entry ∈ entries, entry.helper = helper) →
      (∃ entry ∈ entries, entry.helper = other) → change helper = change other → helper = other) :
    applicable (entries.map (.mapHelper change)) name mode context =
      (applicable entries name mode context).map change := by
  rw [applicable, lastNamed?_map, accepted_map, applicable, List.map_append, List.filter_map,
    ← Option.toList_map]
  congr 2
  apply List.filter_congr
  intro helper hhelper
  cases hnamed : lastNamed? entries name with
  | none => rfl
  | some named =>
    have hsame : change helper = change named ↔ helper = named :=
      ⟨hchange helper named (exists_of_mem_accepted hhelper) (exists_of_lastNamed? hnamed),
        congrArg change⟩
    simp [hsame]

/-- The helper with its place among the helpers of its category as its identity. -/
def placedIn (category : String) (history : List HelperRegistration) (helper : Helper) : Helper :=
  { helper with id := (history.take helper.id).countP (·.category = category) }

variable (category : String) (history : List HelperRegistration)

theorem placedIn_concat (registration : HelperRegistration) {helper : Helper}
    (h : helper.id ≤ history.length) :
    placedIn category (history ++ [registration]) helper = placedIn category history helper := by
  rw [placedIn, List.take_append_of_le_length h, placedIn]

/-- A history without the registrations of other categories makes the same helpers in the category,
each with its place in it for an identity. -/
theorem registeredIn_filter :
    registeredIn category (history.filter (·.category = category)) =
      (registeredIn category history).map (.mapHelper (placedIn category history)) := by
  induction history using List.reverseRecOn with
  | nil => rfl
  | append_singleton history registration ih =>
    have hearlier : (registeredIn category history).map
          (Registered.mapHelper (placedIn category (history ++ [registration]))) =
        (registeredIn category history).map
          (Registered.mapHelper (placedIn category history)) := by
      apply List.map_congr_left
      intro entry hentry
      have hid := id_lt_of_mem_registered (List.mem_of_mem_filter hentry)
      rw [Registered.mapHelper, placedIn_concat category history registration (Nat.le_of_lt hid),
        Registered.mapHelper]
    rw [registeredIn_concat, List.map_append, hearlier, ← ih, List.filter_append]
    by_cases hcategory : registration.category = category
    · rw [if_pos hcategory, List.filter_cons_of_pos (by simpa using hcategory), List.filter_nil,
        registeredIn_concat, if_pos hcategory, List.map_singleton, Registered.mapHelper,
        placedIn_concat category history registration (Nat.le_refl _), placedIn, List.take_length,
        List.countP_eq_length_filter]
    · rw [if_neg hcategory, List.filter_cons_of_neg (by simpa using hcategory), List.filter_nil,
        List.append_nil, List.map_nil, List.append_nil]

/-- Different helpers of a category have different places in it. -/
theorem placedIn_injOn (helper other : Helper)
    (h : ∃ entry ∈ registeredIn category history, entry.helper = helper)
    (h' : ∃ entry ∈ registeredIn category history, entry.helper = other)
    (hplace : placedIn category history helper = placedIn category history other) :
    helper = other := by
  obtain ⟨entry, hentry, rfl⟩ := h
  obtain ⟨entry', hentry', rfl⟩ := h'
  have hplaces := nodup_registeredIn category (history.filter (·.category = category))
  rw [registeredIn_filter, List.map_map] at hplaces
  rw [List.inj_on_of_nodup_map hplaces hentry hentry' (congrArg Helper.id hplace)]

end Categories

/-- What is found for a mode after a history of registrations. -/
structure FindsEachOnce (history : List HelperRegistration) (category : String) (mode : Mode)
    (context : String) (found : List Helper) : Prop where
  found_eq : found = applicable (registeredIn category history)
    (mode.helperType.getD mode.name) mode context
  nodup : (found.map Helper.id).Nodup
  mem_iff : ∀ helper, helper ∈ found ↔
    helper ∈ (HelperRegistry.ofHistory history).find? category
        (mode.helperType.getD mode.name) ∨
      helper ∈ (HelperRegistry.ofHistory history).globalMatches category mode context
  category_eq : found.map (placedIn category history) =
    (HelperRegistry.ofHistory (history.filter (·.category = category))).helpersFor category mode
      context

/-- What is found is told from the history of the category alone. -/
theorem HelperRegistry.helpersFor_ofHistory (history : List HelperRegistration) (category : String)
    (mode : Mode) (context : String) :
    (ofHistory history).helpersFor category mode context =
      applicable (registeredIn category history) (mode.helperType.getD mode.name) mode context := by
  have hentries := nodup_registeredIn category history
  rw [applicable_eq hentries, helpersFor, find?_ofHistory, globalMatches_ofHistory,
    foldl_unless_found (nodup_accepted hentries)]

/-- After any history of registrations, the helpers for a mode are the one that was registered last
under its helper type, or its name where it has none, and then, in the order of registration, the
other global ones of the category whose predicates accept. Each is there once, and without the
registrations of other categories the same ones are found. -/
theorem HelperRegistry.helpersFor_finds_each_once (history : List HelperRegistration)
    (category : String) (mode : Mode) (context : String) :
    FindsEachOnce history category mode context
      ((ofHistory history).helpersFor category mode context) where
  found_eq := helpersFor_ofHistory history category mode context
  nodup := by
    rw [helpersFor_ofHistory]
    exact nodup_applicable (nodup_registeredIn category history)
  mem_iff helper := by
    rw [helpersFor_ofHistory, find?_ofHistory, globalMatches_ofHistory]
    exact mem_applicable
  category_eq := by
    rw [helpersFor_ofHistory, helpersFor_ofHistory, registeredIn_filter]
    exact (applicable_map _ mode context (placedIn_injOn category history)).symm

/-- A global helper whose name has gone to another one comes after it. -/
example :
    (HelperRegistry.ofHistory
      [{ category := "lint", name := "x", value := .text "a", applies := some fun _ _ ↦ true },
        { category := "fold", name := "x", value := .text "b" },
        { category := "lint", name := "x", value := .text "c" }]).helpersFor "lint"
      { Mode.plainText with name := "x" } "" = [⟨2, .text "c"⟩, ⟨0, .text "a"⟩] := by
  decide

end LineLexer
