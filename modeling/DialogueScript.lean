import DialogueScript.Decoding
import DialogueScript.Main
import DialogueScript.Proofs.Text.Lowercase
import DialogueScript.Proofs.Name.Key
import DialogueScript.Proofs.Identifier.Rules
import DialogueScript.Proofs.Identifier.SameName
import DialogueScript.Proofs.Text.LetterCase
import DialogueScript.Proofs.Identifier.LetterCase
import DialogueScript.Proofs.Name.Filling
import DialogueScript.Proofs.Name.Runs
import DialogueScript.Proofs.Json.Objects
import DialogueScript.Proofs.Run.Rules
import DialogueScript.Proofs.Json.RoundTrip
import DialogueScript.Proofs.Representation
import DialogueScript.Proofs.Toml.Distinct
import DialogueScript.Proofs.Settings.Trees
import DialogueScript.Proofs.Settings.Layers
import DialogueScript.Proofs.CommandLine.Refinement
import DialogueScript.Proofs.Json.Grammar
import DialogueScript.Proofs.Json.Reading
import DialogueScript.Proofs.Json.Skipping
import DialogueScript.Proofs.Json.Fields
import DialogueScript.Proofs.Json.Documents
import DialogueScript.Proofs.Json.Unambiguous
import DialogueScript.Proofs.Decoding
import DialogueScript.Proofs.Identifier.Joining
import DialogueScript.Proofs.Summary
import DialogueScript.Proofs.Yaml.Members
import DialogueScript.Proofs.Endings
import DialogueScript.Proofs.Printing
import DialogueScript.Proofs.Json.Truncation
import DialogueScript.Proofs.Trailing
import DialogueScript.Proofs.Logging
import DialogueScript.Proofs.Settings.Failures
import DialogueScript.Proofs.Toml.Strings
import DialogueScript.Proofs.Settings.FormatNames
import DialogueScript.Proofs.CommandLine.Diagnostics
