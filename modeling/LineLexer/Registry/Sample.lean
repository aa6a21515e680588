import LineLexer.Mode.Sample
import LineLexer.Registry.Basic

/-!
# Grammars of the sample modes

The sample modes as grammars that can be registered under any name.
-/

namespace LineLexer.Sample

/-- Words of the class that the option `class` names. -/
def wordsGrammar : Grammar := fun _ config _ ↦
  words (((config.str? "class").bind TokenClass.ofName?).getD .identifier)

/-- The stalling mode with the options `period` and `retreat`. -/
def stallGrammar : Grammar := fun _ config _ ↦
  stall (((config.options.find? "period").bind Property.int?).getD 3)
    (((config.options.find? "retreat").bind Property.bool?).getD false)

/-- The nesting mode over the mode that the option `inner` names. -/
def nestGrammar : Grammar := fun options config provide ↦
  nest (provide options (.name ((config.str? "inner").getD nullModeName)))

/-- The sample grammar of a name. -/
def grammar? : String → Option Grammar
  | "words" => some wordsGrammar
  | "stall" => some stallGrammar
  | "nest" => some nestGrammar
  | "bare" => some fun _ _ _ ↦ bare
  | _ => none

end LineLexer.Sample
