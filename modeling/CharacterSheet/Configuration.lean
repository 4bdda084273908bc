import CharacterSheet.Skill
import CharacterSheet.Toml.Reader

/-!
# Configuration text

Rules and skills are written in TOML. A rule set and a list of skills that are handed over as text
are validated, and so is a list of skills in a file; a rule set in a file is taken as it stands.
-/

namespace CharacterSheet

namespace Configuration

/-- Reads a configuration text whose content `read` takes. -/
def decode {α : Type} (read : Data → Option α) (text : String) : Except ConfigError α :=
  match (Toml.read? text).bind read with
  | some a => .ok a
  | none => .error .malformed

/-- Reads a configuration file, given its content; there is none when the file cannot be read. -/
def load {α : Type} (read : Data → Option α) : Option String → Except ConfigError α
  | some text => decode read text
  | none => .error .unreadable

end Configuration

/-- Reads a rule set from text and validates it. -/
def Rules.parse (text : String) : Except ConfigError Rules :=
  (Configuration.decode (Rules.ofData? .toml) text).bind Rules.validate

/-- Reads a rule set from a file, without validating it. -/
def Rules.load (content : Option String) : Except ConfigError Rules :=
  Configuration.load (Rules.ofData? .toml) content

/-- Reads a list of skills from text and validates it. -/
def Skill.parseList (text : String) : Except ConfigError (List Skill) :=
  (Configuration.decode (Skill.listOfData? .toml) text).bind Skill.validate

/-- Reads a list of skills from a file and validates it. -/
def Skill.loadList (content : Option String) : Except ConfigError (List Skill) :=
  (Configuration.load (Skill.listOfData? .toml) content).bind Skill.validate

end CharacterSheet
