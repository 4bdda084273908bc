import CharacterSheet.Binary64.Bits
import CharacterSheet.Json.Reader
import CharacterSheet.Json.Writer
import CharacterSheet.Ability
import CharacterSheet.Derivation.Basic
import CharacterSheet.Requirement.Data
import CharacterSheet.Requirement.Report
import CharacterSheet.Cleanup
import CharacterSheet.Skill
import CharacterSheet.Reduction.Basic
import CharacterSheet.Character.Basic
import CharacterSheet.Value.Resolve
import CharacterSheet.Toml.Reader
import CharacterSheet.Configuration
import CharacterSheet.Proofs.Inquiry.Faithful
import CharacterSheet.Proofs.Derivation.Remembering
import CharacterSheet.Proofs.Derivation.LostKey
import CharacterSheet.Proofs.Requirement.Grouped
import CharacterSheet.Proofs.Requirement.EmptyLists
import CharacterSheet.Proofs.Derivation.Inputs
import CharacterSheet.Proofs.Derivation.Repeating
import CharacterSheet.Proofs.Character.Support
import CharacterSheet.Proofs.Derivation.Pruning
import CharacterSheet.Proofs.Requirement.Alternatives
import CharacterSheet.Proofs.Character.NewTrait
import CharacterSheet.Proofs.Character.Partition
import CharacterSheet.Proofs.Derivation.Orphans
import CharacterSheet.Proofs.Derivation.IdleGear
import CharacterSheet.Proofs.Derivation.Readers
import CharacterSheet.Proofs.Derivation.Composition
import CharacterSheet.Proofs.Derivation.Forward
import CharacterSheet.Proofs.Derivation.Bounds
import CharacterSheet.Proofs.Derivation.Published
import CharacterSheet.Proofs.Attack.Shifted
import CharacterSheet.Proofs.Value.Literal
import CharacterSheet.Proofs.Derivation.ConditionShift
import CharacterSheet.Proofs.Attack.Blocks
import CharacterSheet.Proofs.Attack.CommonRoll
import CharacterSheet.Proofs.Attack.MoreTraining
import CharacterSheet.Proofs.Attack.DiceLadder
import CharacterSheet.Proofs.Derivation.Reordering
import CharacterSheet.Proofs.Stats.RoundTrip
import CharacterSheet.Proofs.Requirement.Termination
import CharacterSheet.Proofs.Value.Variables
import CharacterSheet.Proofs.Value.Classes
import CharacterSheet.Proofs.Requirement.Reports
import CharacterSheet.Proofs.Requirement.Renormalizing
import CharacterSheet.Proofs.Requirement.SkillLists
import CharacterSheet.Proofs.Requirement.Numbers
import CharacterSheet.Proofs.Requirement.Gains
import CharacterSheet.Proofs.Text.Folding
import CharacterSheet.Proofs.Derivation.Possession
import CharacterSheet.Proofs.Derivation.Proficiency
import CharacterSheet.Proofs.Derivation.Training
import CharacterSheet.Proofs.Derivation.SkillEntries
import CharacterSheet.Proofs.Reduction.Views
import CharacterSheet.Proofs.Reduction.Reordering
import CharacterSheet.Proofs.Value.WholeNumbers
import CharacterSheet.Proofs.Derivation.Slots
import CharacterSheet.Proofs.Derivation.Confined
import CharacterSheet.Proofs.Derivation.SkillFocus
import CharacterSheet.Proofs.Cleanup.Calls
import CharacterSheet.Proofs.Requirement.RoundTrip
import CharacterSheet.Proofs.Inquiry.Bookkeeping
