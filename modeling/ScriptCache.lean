import ScriptCache.Bytecode.Builder
import ScriptCache.Bytecode.Document.Read
import ScriptCache.Codec.Stream
import ScriptCache.Main
import ScriptCache.Proofs.Bytecode.Nesting
import ScriptCache.Proofs.Codec.Capacity
import ScriptCache.Proofs.Codec.Reading
import ScriptCache.Proofs.Codec.Parts
import ScriptCache.Proofs.Codec.Contents
import ScriptCache.Proofs.Codec.Header
import ScriptCache.Proofs.Codec.RoundTrip
import ScriptCache.Proofs.Codec.Blame
import ScriptCache.Proofs.Codec.Delimiting
import ScriptCache.Proofs.Codec.Tables
import ScriptCache.Proofs.Inspector.Action
import ScriptCache.Proofs.Inspector.Method
import ScriptCache.Proofs.Inspector.Acceptance
import ScriptCache.Proofs.Inspector.Move
import ScriptCache.Proofs.Inspector.Mode
import ScriptCache.Proofs.Inspector.Resolution
import ScriptCache.Proofs.Inspector.Registration
import ScriptCache.Proofs.Inspector.Binding
import ScriptCache.Proofs.Inspector.Naming
import ScriptCache.Proofs.Inspector.Stepping
import ScriptCache.Proofs.Inspector.Delivery
import ScriptCache.Proofs.Bytecode.LineTable
import ScriptCache.Proofs.Inspector.Parameters
import ScriptCache.Proofs.Inspector.Stops
import ScriptCache.Proofs.Inspector.Stepwise
import ScriptCache.Proofs.Inspector.HostCalls
import ScriptCache.Proofs.Store.EntryNames
import ScriptCache.Proofs.Store.Entries
import ScriptCache.Proofs.Store.History
import ScriptCache.Proofs.Store.Separation
import ScriptCache.Proofs.Store.Compilation
import ScriptCache.Proofs.Json.Fields
import ScriptCache.Proofs.Json.Reading
import ScriptCache.Proofs.Store.Leftovers
import ScriptCache.Proofs.Json.Record
import ScriptCache.Proofs.Bytecode.Document
import ScriptCache.Proofs.Inspector.Schema.Records
import ScriptCache.Proofs.Inspector.Schema.Messages
import ScriptCache.Proofs.Numeric.Classes
import ScriptCache.Proofs.Inspector.Conditions
import ScriptCache.Proofs.Bytecode.References
import ScriptCache.Proofs.Bytecode.LineCount
import ScriptCache.Proofs.Inspector.Nearest
import ScriptCache.Proofs.Inspector.NumberText
import ScriptCache.Proofs.Inspector.Range
import ScriptCache.Proofs.Bytecode.Listing
import ScriptCache.Proofs.Inspector.Annotation
import ScriptCache.Proofs.Bytecode.ConstantPool
import ScriptCache.Proofs.Bytecode.Assembly
import ScriptCache.Proofs.Bytecode.Registry
import ScriptCache.Proofs.Inspector.CheckedLocation
