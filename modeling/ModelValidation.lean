import ModelValidation.Options.Json
import ModelValidation.Regex.Reading
import ModelValidation.Specification.Building
import ModelValidation.Validator
import ModelValidation.Proofs.Grouping
import ModelValidation.Proofs.Findings
import ModelValidation.Proofs.FailFast
import ModelValidation.Proofs.Surface
import ModelValidation.Proofs.DepthBound
import ModelValidation.Proofs.ForcedWalk
import ModelValidation.Proofs.Registries
import ModelValidation.Proofs.Building
import ModelValidation.Proofs.Levels
import ModelValidation.Proofs.Faults
import ModelValidation.Proofs.Merging
import ModelValidation.Proofs.Naming
import ModelValidation.Proofs.JsonTrees
import ModelValidation.Proofs.Composition
import ModelValidation.Proofs.DepthLimit
import ModelValidation.Proofs.Acceptance
import ModelValidation.Proofs.Histories
import ModelValidation.Proofs.Sharing
import ModelValidation.Proofs.Placeholders
import ModelValidation.Proofs.Constructions
import ModelValidation.Proofs.Rounding
import ModelValidation.Proofs.Numerals
import ModelValidation.Proofs.Percentages
import ModelValidation.Proofs.IntegerFormats
import ModelValidation.Proofs.Phrasebooks
import ModelValidation.Proofs.Declarations
import ModelValidation.Proofs.Directives
import ModelValidation.Proofs.ParameterLists
import ModelValidation.Proofs.Resolution
import ModelValidation.Proofs.Items
import ModelValidation.Proofs.OptionalParts
import ModelValidation.Proofs.DottedPaths
import ModelValidation.Proofs.FlatReports
import ModelValidation.Proofs.Dictionaries
import ModelValidation.Proofs.IntegerReadings
import ModelValidation.Proofs.DigitGroups
import ModelValidation.Proofs.SignsAndPlaces
import ModelValidation.Proofs.DurationReadings
import ModelValidation.Proofs.DurationFormats
import ModelValidation.Proofs.NamedArguments
import ModelValidation.Proofs.TreeEquality
import ModelValidation.Proofs.Hexadecimal
