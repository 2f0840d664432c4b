import BotBindings.Binding.Document
import BotBindings.Binding.Record
import BotBindings.Command.Run
import BotBindings.Crate.Module
import BotBindings.Files.Tree
import BotBindings.Main
import BotBindings.Proofs.AtomicWrite
import BotBindings.Proofs.Capture
import BotBindings.Proofs.Check
import BotBindings.Proofs.Closure
import BotBindings.Proofs.Conversion
import BotBindings.Proofs.Declaration
import BotBindings.Proofs.DiskTrace
import BotBindings.Proofs.DocLines
import BotBindings.Proofs.Document
import BotBindings.Proofs.Extension
import BotBindings.Proofs.FirstViolation
import BotBindings.Proofs.Flattening
import BotBindings.Proofs.Glue
import BotBindings.Proofs.Grammar
import BotBindings.Proofs.Header
import BotBindings.Proofs.HelperCall
import BotBindings.Proofs.Helpers
import BotBindings.Proofs.MemberName
import BotBindings.Proofs.MethodBody
import BotBindings.Proofs.MethodOutline
import BotBindings.Proofs.NameClash
import BotBindings.Proofs.Order
import BotBindings.Proofs.Parameters
import BotBindings.Proofs.PrettyText
import BotBindings.Proofs.RecordText
import BotBindings.Proofs.Render
import BotBindings.Proofs.Resolution
import BotBindings.Proofs.RoundTrip
import BotBindings.Proofs.Run
import BotBindings.Proofs.SchemaEdit
import BotBindings.Proofs.TableOrder
import BotBindings.Proofs.Upload
import BotBindings.Proofs.WellFormed
import BotBindings.Proofs.WireName
import BotBindings.Proofs.WordStart
import BotBindings.Schema.Load
import BotBindings.Schema.Writer
