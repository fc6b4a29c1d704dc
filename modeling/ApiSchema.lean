import ApiSchema.Main
import ApiSchema.Proofs.CommandLine.Agreement
import ApiSchema.Proofs.CommandLine.Grammar
import ApiSchema.Proofs.Flatten.Lossless
import ApiSchema.Proofs.Generator.Lines
import ApiSchema.Proofs.Method.RoundTrip
import ApiSchema.Proofs.Naming.ApiName
import ApiSchema.Proofs.Platform.Bounds
import ApiSchema.Proofs.Platform.Envelopes
import ApiSchema.Proofs.Platform.Lists
import ApiSchema.Proofs.Platform.Nulls
import ApiSchema.Proofs.Platform.Resolved
import ApiSchema.Proofs.Platform.Spellings
import ApiSchema.Proofs.Platform.Weixin.Insertion
import ApiSchema.Proofs.Platform.Weixin.Outline
import ApiSchema.Proofs.Platform.Weixin.Tables
import ApiSchema.Proofs.Platform.WellFormed
import ApiSchema.Proofs.Settings.Overrides
import ApiSchema.Proofs.Structure.Asked
import ApiSchema.Proofs.Structure.Attachments
import ApiSchema.Proofs.Structure.Grafting
import ApiSchema.Proofs.Structure.Settled
import ApiSchema.Proofs.Target.Arguments
import ApiSchema.Proofs.Target.Attributes
import ApiSchema.Proofs.Target.BlockComments
import ApiSchema.Proofs.Target.Definitions
import ApiSchema.Proofs.Target.FieldLines
import ApiSchema.Proofs.Target.Literals
import ApiSchema.Proofs.Target.Named
import ApiSchema.Proofs.Target.Redaction
import ApiSchema.Proofs.Target.Usable
import ApiSchema.Proofs.Unify.Apart
import ApiSchema.Proofs.Unify.Stable
import ApiSchema.Proofs.Unify.Visibility
