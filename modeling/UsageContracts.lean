import UsageContracts.Main
import UsageContracts.Proofs.Contract.Acceptance
import UsageContracts.Proofs.Contract.Distinction
import UsageContracts.Proofs.Contract.Nulls
import UsageContracts.Proofs.Contract.Pairings
import UsageContracts.Proofs.Contract.Presentation
import UsageContracts.Proofs.Contract.Shape
import UsageContracts.Proofs.Contract.Telling
import UsageContracts.Proofs.EntryPoints.Examples
import UsageContracts.Proofs.EntryPoints.FileEffects
import UsageContracts.Proofs.EntryPoints.Findings
import UsageContracts.Proofs.Service.Errors
import UsageContracts.Service.Respond
import UsageContracts.Proofs.Contract.Sharing
import UsageContracts.Proofs.Pattern.Names
import UsageContracts.Proofs.Text.LetterCase
import UsageContracts.Proofs.EntryPoints.Launching
import UsageContracts.Proofs.Contract.Terms
import UsageContracts.Proofs.Settings.Reading
import UsageContracts.Proofs.Settings.Loading
import UsageContracts.Proofs.EntryPoints.Validation
import UsageContracts.Proofs.EntryPoints.Reviewing
import UsageContracts.Proofs.Yaml.Steps
