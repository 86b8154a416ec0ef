import SwiftDerive.Main
import SwiftDerive.Proofs.Expansion.Annotated
import SwiftDerive.Proofs.Expansion.Sequential
import SwiftDerive.Proofs.Expansion.Settled
import SwiftDerive.Proofs.Json.RoundTrip
import SwiftDerive.Proofs.Mock.Conformance
import SwiftDerive.Proofs.Mock.Forwarding
import SwiftDerive.Proofs.Mock.Scope
import SwiftDerive.Proofs.Mock.SlotNames
import SwiftDerive.Proofs.Reading.Comments
import SwiftDerive.Proofs.TaggedUnion.Agreement
import SwiftDerive.Proofs.TaggedUnion.Discriminators
import SwiftDerive.Proofs.TypeText.Unambiguous
import SwiftDerive.Proofs.Mock.SlotSearch
import SwiftDerive.Proofs.Requirement
import SwiftDerive.Proofs.Mock.Acceptance
import SwiftDerive.Proofs.Mock.Opaque
import SwiftDerive.Proofs.TaggedUnion.Accounting
import SwiftDerive.Proofs.Mock.ParameterNames
import SwiftDerive.Proofs.Mock.SlotSpelling
import SwiftDerive.Proofs.TaggedUnion.Hygiene
import SwiftDerive.Proofs.TaggedUnion.Schema
import SwiftDerive.Proofs.Text.Lines
import SwiftDerive.Proofs.Text.Words
import SwiftDerive.Proofs.Layout.RawText
import SwiftDerive.Proofs.Text.Settled
import SwiftDerive.Proofs.Layout.Indentation
import SwiftDerive.Proofs.Reading.Reported
import SwiftDerive.Proofs.Reading.Placeholder
import SwiftDerive.Proofs.Reading.Marks
import SwiftDerive.Proofs.Substitution
import SwiftDerive.Proofs.Reading.Bodies
import SwiftDerive.Proofs.Reading.FirstError
import SwiftDerive.Proofs.Reading.FormedDeclarations
import SwiftDerive.Proofs.Discovery.Walk
import SwiftDerive.Proofs.Ignore.Literal
import SwiftDerive.Proofs.Mentions
import SwiftDerive.Proofs.Discovery.NestedRules
import SwiftDerive.Proofs.Layout.Printed
import SwiftDerive.Proofs.Reading.PrintedDeclarations
import SwiftDerive.Proofs.Expansion.Printed
import SwiftDerive.Proofs.Files.Writing
import SwiftDerive.Proofs.Command.AllOrNothing
import SwiftDerive.Proofs.Reading.ParameterClause
