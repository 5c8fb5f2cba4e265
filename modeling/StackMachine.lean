import StackMachine.Text.Joined
import StackMachine.Text.Printable
import StackMachine.Text.Quoted
import StackMachine.Text.CaseTable
import StackMachine.Text.Cased
import StackMachine.Text.Casing
import StackMachine.Text.Utf8
import StackMachine.Number.Rounding
import StackMachine.Number.Integer
import StackMachine.Number.Binary64
import StackMachine.Number.Shortest
import StackMachine.Number.FloatText
import StackMachine.Number.Decimal
import StackMachine.Number.DecimalProduct
import StackMachine.Number.Complex
import StackMachine.Number
import StackMachine.Number.Exact
import StackMachine.Number.Precision
import StackMachine.Opcode
import StackMachine.Value
import StackMachine.Value.Text
import StackMachine.ErrorClass
import StackMachine.Template.Problem
import StackMachine.Fault
import StackMachine.Value.Mapping
import StackMachine.Template.Directive
import StackMachine.Template.Conversion
import StackMachine.Template
import StackMachine.Instruction
import StackMachine.Machine
import StackMachine.Loop
import StackMachine.Rack
import StackMachine.Log.Level
import StackMachine.Settings
import StackMachine.Log.Event
import StackMachine.Log.JsonLine
import StackMachine.Log.ConsoleLine
import StackMachine.Log.Journal
import StackMachine.Session
import StackMachine.Table
import StackMachine.Report
import StackMachine.Proofs.Runs
import StackMachine.Proofs.Writable
import StackMachine.Proofs.Application
import StackMachine.Proofs.Turn
import StackMachine.Proofs.WellFormed
import StackMachine.Proofs.Breakpoints
import StackMachine.Proofs.MachineEvents
import StackMachine.Proofs.Products
import StackMachine.Proofs.Aborts
import StackMachine.Proofs.Insertion
import StackMachine.Proofs.Operations
import StackMachine.Proofs.History
import StackMachine.Proofs.SelfContained
import StackMachine.Proofs.StackFrame
import StackMachine.Proofs.Transcript
import StackMachine.Proofs.LogInertness
import StackMachine.Proofs.Isolation
import StackMachine.Proofs.StraightLine
import StackMachine.Proofs.Revisits
import StackMachine.Proofs.StackDepth
import StackMachine.Proofs.Memory
import StackMachine.Proofs.Subroutines
import StackMachine.Proofs.LogEntries
import StackMachine.Proofs.Trails
import StackMachine.Proofs.Configuration
import StackMachine.Proofs.OneLine
import StackMachine.Proofs.LogLines
import StackMachine.Proofs.DecimalRounding
import StackMachine.Proofs.SingleProduct
import StackMachine.Proofs.Endings
import StackMachine.Proofs.Loading
import StackMachine.Proofs.Termination
import StackMachine.Proofs.Output
import StackMachine.Proofs.MultOutcomes
import StackMachine.Proofs.Popping
import StackMachine.Proofs.SurplusOperands
import StackMachine.Proofs.DecimalError
import StackMachine.Proofs.Resolution
import StackMachine.Proofs.DelimitedTexts
import StackMachine.Proofs.UniqueReading
