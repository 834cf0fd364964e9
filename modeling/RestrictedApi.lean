import RestrictedApi.Main
import RestrictedApi.Restriction.Description
import RestrictedApi.Proofs.OwnerChain
import RestrictedApi.Proofs.Suppression
import RestrictedApi.Proofs.Resolution
import RestrictedApi.Proofs.Independence
import RestrictedApi.Proofs.Noninterference
import RestrictedApi.Proofs.Annotations
import RestrictedApi.Proofs.Nesting
import RestrictedApi.Proofs.Ownership
import RestrictedApi.Proofs.JsonText
import RestrictedApi.Proofs.ReportText
import RestrictedApi.Proofs.Grammar
import RestrictedApi.Proofs.Tour
import RestrictedApi.Proofs.Tour.Names
import RestrictedApi.Proofs.Tour.Expressions
import RestrictedApi.Proofs.Tour.Bindings
import RestrictedApi.Proofs.Tour.Visit
import RestrictedApi.Proofs.Reported
import RestrictedApi.Proofs.Imports
import RestrictedApi.Proofs.Locals
import RestrictedApi.Proofs.Presets
import RestrictedApi.Proofs.Supertypes
import RestrictedApi.Proofs.SingleImports
import RestrictedApi.Proofs.MemberTypes
import RestrictedApi.Proofs.Loading
import RestrictedApi.Proofs.Chains
import RestrictedApi.Proofs.Inheritance
import RestrictedApi.Proofs.Agreement
import RestrictedApi.Proofs.Levels
import RestrictedApi.Proofs.MethodReferences
import RestrictedApi.Proofs.ConfigSearch
import RestrictedApi.Proofs.Components
import RestrictedApi.Proofs.Productions
import RestrictedApi.Proofs.TypeNames
import RestrictedApi.Proofs.Namespaces
import RestrictedApi.Proofs.Balance
import RestrictedApi.Proofs.ErrorRegions
