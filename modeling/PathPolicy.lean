import PathPolicy.Guard
import PathPolicy.Assembly
import PathPolicy.Proofs.Registry.Locality
import PathPolicy.Proofs.Schema.Identity
import PathPolicy.Proofs.Guard.Unregistered
import PathPolicy.Proofs.Loader.Listing
import PathPolicy.Proofs.PolicyFile.Reading
import PathPolicy.Proofs.PolicyFile.Dump
import PathPolicy.Proofs.Guard.Nesting
import PathPolicy.Proofs.Validator.Lookup
import PathPolicy.Proofs.Config.Defaults
import PathPolicy.Proofs.Loader.Repair
import PathPolicy.Proofs.Selector.Compiled
import PathPolicy.Proofs.Selector.Refusal
import PathPolicy.Proofs.Schema.Building
import PathPolicy.Proofs.Assembly.Warnings
import PathPolicy.Proofs.Registry.Draining
import PathPolicy.Proofs.Registry.Repetition
import PathPolicy.Proofs.Guard.Spelling
import PathPolicy.Proofs.Loader.Flattening
import PathPolicy.Proofs.Config.Normalising
import PathPolicy.Proofs.Registry.Naming
import PathPolicy.Proofs.Guard.Words
import PathPolicy.Proofs.PolicyFile.FlagTexts
