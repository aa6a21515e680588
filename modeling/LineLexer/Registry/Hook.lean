import LineLexer.Table

/-!
# Hooks

Actions a host runs on every new editor, and named extensions of its editors and documents. The
library stores them and gives them back.
-/

namespace LineLexer

/-- What the hooks of a new editor have noted on it. -/
abbrev EditorNotes := List String

structure HookRegistry where
  initHooks : List (EditorNotes → EditorNotes) := []
  editorExtensions : Table String := {}
  documentExtensions : Table String := {}

namespace HookRegistry

def defineInitHook (hooks : HookRegistry) (hook : EditorNotes → EditorNotes) : HookRegistry :=
  { hooks with initHooks := hooks.initHooks ++ [hook] }

/-- Runs the hooks in the order of their definition. -/
def runInitHooks (hooks : HookRegistry) (editor : EditorNotes) : EditorNotes :=
  hooks.initHooks.foldl (fun editor hook ↦ hook editor) editor

def defineEditorExtension (hooks : HookRegistry) (name value : String) : HookRegistry :=
  { hooks with editorExtensions := hooks.editorExtensions.insert name value }

def defineDocumentExtension (hooks : HookRegistry) (name value : String) : HookRegistry :=
  { hooks with documentExtensions := hooks.documentExtensions.insert name value }

end HookRegistry

end LineLexer
