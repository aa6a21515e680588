import LineLexer.Proofs.Registry.Bundled

/-!
# No bundled mode stalls

From every state that a bundled mode comes to, every call on every line moves the cursor forward to
a boundary of the line. The loop over a line then makes one call for each token and never gives up.
-/

namespace LineLexer

/-- A state that a mode comes to: at the start of a text, after a line, or as a copy. -/
inductive Reachable (mode : Mode) : State → Prop where
  | start (baseIndent : Nat) : Reachable mode (mode.start baseIndent)
  | line {state after : State} {line : Line} {tabSize : Nat} {tokens : List Token}
      (hstate : Reachable mode state)
      (hline : tokenizeLine mode line state tabSize = .ok (tokens, after)) : Reachable mode after
  | copy {state : State} (hstate : Reachable mode state) : Reachable mode (mode.copy state)

/-- A steady mode comes only to states that fit it. -/
theorem Mode.Steady.fits {mode : Mode} {Fits : State → Prop} (h : mode.Steady Fits) {state : State}
    (hstate : Reachable mode state) : Fits state := by
  induction hstate with
  | start baseIndent => exact h.start baseIndent
  | @line state after line tabSize tokens _ hline ih =>
    obtain ⟨_, last, hok, hlast⟩ := h.exists_tokens ih line tabSize
    cases hline.symm.trans hok
    exact hlast
  | @copy state _ ih =>
    rw [h.copy state ih]
    exact ih

/-- The modes that a registry of the bundled grammars gives are bundled modes, and no such mode ever
stalls: on every line it makes one call for each token, and the call ends further on at a boundary
of the line. -/
theorem bundled_never_stalls :
    (∀ registry : Registry, registry.HasBundled → ∀ options spec,
      Bundled (registry.getMode options spec)) ∧
    ∀ mode, Bundled mode → ∀ state, Reachable mode state →
      ∀ (line : Line) (tabSize : Nat), line ≠ [] →
        ∃ calls last, LineRun mode.readToken (.ofLine line tabSize) 0 state calls none last ∧
          (∀ call ∈ calls, call.Advances ∧ IsBoundary line call.reached.pos) ∧
          tokenizeLine mode line state tabSize = .ok (calls.map Call.token, last) := by
  refine ⟨fun registry hregistry options spec ↦ Registry.bundled_getMode hregistry options spec, ?_⟩
  intro mode hmode state hstate line tabSize hline
  obtain ⟨Fits, hsteady⟩ := hmode.exists_steady
  obtain ⟨pieces, last, hreads, _⟩ := hsteady.exists_readsAs (hsteady.fits hstate) [] line
  obtain ⟨calls, hrun, htokens, hcalls⟩ := hreads.exists_calls tabSize
  refine ⟨calls, last, hrun, hcalls, ?_⟩
  rw [hreads.tokenizeLine_eq hline tabSize, htokens]

/-- A diff of diffs of documents. -/
theorem bundled_never_stalls_nested :
    Registry.bundled.HasBundled ∧ Bundled (Registry.bundled.getMode {} (.name "text/html")) ∧
      ∃ calls last, LineRun (PatchGrammar.mode (PatchGrammar.mode
          (HtmlGrammar.mode (XmlGrammar.mode 2) (CFamily.ofDialect .javaScript 2)))).readToken
        (.ofLine "++x</script>".toList 4) 0
        (PatchGrammar.stateOver (PatchGrammar.stateOver
          (HtmlGrammar.documentState ((XmlGrammar.mode 2).start 0))))
        calls none last ∧ ∀ call ∈ calls, call.Advances := by
  have hregistry := Registry.hasBundled_bundled
  have hmode : Bundled (PatchGrammar.mode (PatchGrammar.mode
      (HtmlGrammar.mode (XmlGrammar.mode 2) (CFamily.ofDialect .javaScript 2)))) :=
    .patch (.patch (.html (.xml 2) (.code .javaScript 2)))
  obtain ⟨calls, last, hrun, hcalls, _⟩ :=
    bundled_never_stalls.2 _ hmode _ (.start 0) "++x</script>".toList 4 (by decide)
  exact ⟨hregistry, bundled_never_stalls.1 _ hregistry _ _, calls, last, hrun, fun call hmem ↦
    (hcalls call hmem).1⟩

end LineLexer
