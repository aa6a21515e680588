import LineLexer.CommandLine.Run
import LineLexer.Proofs.Terminal.Painting
import LineLexer.Proofs.Text.Lines

/-!
# Highlighting keeps the text

What a highlighted text prints, once its escape sequences are left out, is the text itself: only its
line separators become line feeds, and a last line without a separator gets one. This holds for
every text and every bundled mode, and so for every run of the command line that paints a file.
-/

namespace LineLexer

open Outcome CommandLine

/-- The text with a line feed at the end of each of its lines. -/
def endedLines (text : List Char) : List Char :=
  unifySeparators text ++ if text = [] ∨ EndsInSeparator text then [] else ['\n']

/-- An empty last line would print one line feed too many. -/
theorem flatMap_documentLines (text : List Char) :
    (documentLines text).flatMap (· ++ ['\n']) = endedLines text := by
  have hlines := flatMap_splitLines text
  unfold documentLines endedLines
  by_cases hlast : (splitLines text).getLast? = some []
  · rw [if_pos hlast, if_pos ((getLast?_splitLines text).1 hlast), List.append_nil]
    obtain ⟨firsts, hfirsts⟩ := List.getLast?_eq_some_iff.1 hlast
    rw [hfirsts, List.flatMap_append] at hlines
    rw [hfirsts, List.dropLast_concat]
    exact List.append_cancel_right hlines
  · rw [if_neg hlast, if_neg (mt (getLast?_splitLines text).2 hlast)]
    exact hlines

/-- Painting with a steady mode never fails, and prints every line with a line feed behind it. -/
theorem Mode.Steady.exists_paintReport {mode : Mode} {Fits : State → Prop} (h : mode.Steady Fits)
    (tabSize : Nat) (lines : List Line) :
    ∃ commands, paintReport mode tabSize lines = .ok commands ∧
      printedText commands = lines.flatMap (· ++ ['\n']) := by
  obtain ⟨cached, painted, hlines, hpainted, hprinted⟩ :=
    h.exists_paintLines (h.start 0) tabSize lines
  rw [← HighlightCache.highlightAfter_none (h.copy _ (h.start 0))] at hlines
  refine ⟨painted.flatten, ?_, hprinted⟩
  rw [paintReport, HighlightCache.highlightDocument_ofMode hlines, ok_bind]
  dsimp only
  rw [hpainted]
  rfl

/-! ## Modes of the command line -/

namespace Registry

theorem hasBundled_foldl_defineMime {registry : Registry} (h : registry.HasBundled)
    (entries : List (String × Spec)) :
    (entries.foldl (fun registry (mime, spec) ↦ registry.defineMime mime spec) registry).HasBundled := by
  induction entries generalizing registry with
  | nil => exact h
  | cons entry entries ih => exact ih ⟨h.modes_eq, h.extensions_eq⟩

/-- Settings add MIME types and choose a default, and change no mode. -/
theorem hasBundled_apply (settings : Settings) : (settings.apply bundled).HasBundled := by
  have hmimes := hasBundled_foldl_defineMime hasBundled_bundled settings.mimes.entries
  unfold Settings.apply
  dsimp only
  split
  · split
    · exact ⟨hmimes.modes_eq, hmimes.extensions_eq⟩
    · exact hmimes
  · exact hmimes

/-- A registry of bundled grammars hands out bundled modes only. -/
theorem bundled_getMode? {registry : Registry} (hregistry : registry.HasBundled)
    {options : ModeOptions} {spec : Spec} {mode : Mode}
    (h : registry.getMode? options spec = .ok mode) : Bundled mode := by
  unfold getMode? modeOrFault at h
  obtain ⟨config, _, hmode⟩ := bind_eq_ok_iff.1 h
  split at hmode
  · rename_i found hfound
    obtain rfl := Except.ok.inj hmode
    exact bundled_instantiate? hregistry (bundled_provider hregistry _) hfound
  · cases hmode

end Registry

/-- However the command line, the settings and the file name choose a mode, it is a bundled one. -/
theorem bundled_chooseMode {registry : Registry} (hregistry : registry.HasBundled)
    {arguments : Arguments} {settings : Settings} {options : ModeOptions} {file : String}
    {mode : Mode} (h : chooseMode arguments settings registry options file = .ok mode) :
    Bundled mode := by
  unfold chooseMode at h
  split at h
  · exact Registry.bundled_getMode? hregistry h
  · obtain rfl := Except.ok.inj h
    exact Registry.bundled_getMode hregistry options _

/-- Only a mode that is asked for can be missing. -/
theorem exists_mode_of_chooseMode_error {arguments : Arguments} {settings : Settings}
    {registry : Registry} {options : ModeOptions} {file : String} {error : ModeError}
    (h : chooseMode arguments settings registry options file = .error error) :
    ∃ spec, arguments.mode = some spec := by
  unfold chooseMode at h
  split at h
  · rename_i spec hspec
    exact ⟨spec, hspec⟩
  · cases h

/-- Painted with any bundled mode, a text comes out as it is, with a line feed at the end of each
line. A run of the command line that paints a file does so, unless the mode that it is asked to use
does not exist. -/
theorem painting_keeps_text (text : String) :
    (∀ (registry : Registry), registry.HasBundled →
      ∀ (options : ModeOptions) (spec : Spec) (tabSize : Nat), ∃ commands,
        paintReport (registry.getMode options spec) tabSize (documentLines text.toList) =
          .ok commands ∧
        printedText commands = endedLines text.toList) ∧
    ∀ (arguments : Arguments) (settings : Settings) (file : String), arguments.tokens = false →
      (∃ spec error, arguments.mode = some spec ∧
        highlightText arguments settings (settings.apply .bundled) file text = .failed error) ∨
      ∃ commands,
        highlightText arguments settings (settings.apply .bundled) file text =
          .done (encodeCommands commands) ∧
        printedText commands = endedLines text.toList := by
  have hpainted {mode : Mode} (hmode : Bundled mode) (tabSize : Nat) : ∃ commands,
      paintReport mode tabSize (documentLines text.toList) = .ok commands ∧
        printedText commands = endedLines text.toList := by
    obtain ⟨Fits, hsteady⟩ := hmode.exists_steady
    rw [← flatMap_documentLines]
    exact hsteady.exists_paintReport tabSize (documentLines text.toList)
  constructor
  · intro registry hregistry options spec tabSize
    exact hpainted (Registry.bundled_getMode hregistry options spec) tabSize
  · intro arguments settings file hcolour
    unfold highlightText
    dsimp only
    split
    · rename_i error herror
      obtain ⟨spec, hspec⟩ := exists_mode_of_chooseMode_error herror
      exact .inl ⟨spec, error, hspec, rfl⟩
    · rename_i mode hmode
      obtain ⟨commands, hcommands, hprinted⟩ :=
        hpainted (bundled_chooseMode (Registry.hasBundled_apply settings) hmode) _
      rw [if_neg (by simp [hcolour]), hcommands]
      exact .inr ⟨commands, rfl, hprinted⟩

/-- Three kinds of separators, a character of two bytes and no separator at the end. -/
theorem painting_keeps_text_mixed :
    Registry.bundled.HasBundled ∧
      ∃ commands,
        paintReport (Registry.bundled.getMode {} (.name "text/x-toml")) 4
          (documentLines "é = 1\r\n\r# b\nc".toList) = .ok commands ∧
        printedText commands = "é = 1\n\n# b\nc\n".toList := by
  have hregistry := Registry.hasBundled_bundled
  obtain ⟨commands, hcommands, hprinted⟩ := (painting_keeps_text "é = 1\r\n\r# b\nc").1
    Registry.bundled hregistry {} (.name "text/x-toml") 4
  have htext : endedLines "é = 1\r\n\r# b\nc".toList = "é = 1\n\n# b\nc\n".toList := by decide
  exact ⟨hregistry, commands, hcommands, hprinted.trans htext⟩

end LineLexer
