import AfsToken.Action
import AfsToken.Asn1.Element
import AfsToken.Asn1.Reader
import AfsToken.Asn1.Value
import AfsToken.CacheName
import AfsToken.Ccache
import AfsToken.Cell
import AfsToken.CommandLine.Answer
import AfsToken.CommandLine.Grammar
import AfsToken.CommandLine.Invocation
import AfsToken.Credential.Basic
import AfsToken.Credential.CredentialFile
import AfsToken.Des
import AfsToken.Digest
import AfsToken.Enctype
import AfsToken.Failure
import AfsToken.Kerberos
import AfsToken.Main
import AfsToken.Octets.Basic
import AfsToken.Octets.Hex
import AfsToken.Octets.Integer
import AfsToken.Proofs.Asn1.Faults
import AfsToken.Proofs.Asn1.RoundTrip
import AfsToken.Proofs.Asn1.Times
import AfsToken.Proofs.Asn1.Values
import AfsToken.Proofs.CacheName.Resolution
import AfsToken.Proofs.Ccache.Reading
import AfsToken.Proofs.Cell.Principal
import AfsToken.Proofs.CommandLine.Cells
import AfsToken.Proofs.CommandLine.Derivation
import AfsToken.Proofs.Credential.Breakdown
import AfsToken.Proofs.Credential.CacheSelection
import AfsToken.Proofs.Credential.Formats
import AfsToken.Proofs.Credential.LastMaximum
import AfsToken.Proofs.Credential.MessageFile
import AfsToken.Proofs.Credential.Pairing
import AfsToken.Proofs.Credential.Secrecy
import AfsToken.Proofs.Credential.Selection
import AfsToken.Proofs.Credential.ServiceNames
import AfsToken.Proofs.Credential.TicketSelection
import AfsToken.Proofs.Des.Expansion
import AfsToken.Proofs.Des.ParityBits
import AfsToken.Proofs.Des.WeakKeys
import AfsToken.Proofs.Kerberos.Faults
import AfsToken.Proofs.Kerberos.RoundTrip
import AfsToken.Proofs.Octets.Hex
import AfsToken.Proofs.Octets.Reading
import AfsToken.Proofs.Record.Bijection
import AfsToken.Proofs.Record.Layout
import AfsToken.Proofs.Report.Agreement
import AfsToken.Proofs.SessionKey.Counting
import AfsToken.Proofs.SessionKey.Material
import AfsToken.Proofs.SessionKey.Outcomes
import AfsToken.Proofs.SessionKey.Paths
import AfsToken.Proofs.SessionKey.Secrecy
import AfsToken.Proofs.SessionKey.Soundness
import AfsToken.Proofs.SessionKey.Unweaving
import AfsToken.Proofs.Store.History
import AfsToken.Proofs.Text.CaseForms
import AfsToken.Proofs.Text.Decimal
import AfsToken.Proofs.Text.Folding
import AfsToken.Proofs.Text.Separator
import AfsToken.Proofs.Text.Utf8
import AfsToken.Proofs.Time.Civil
import AfsToken.Proofs.Token.Provenance
import AfsToken.Proofs.Token.Secrecy
import AfsToken.Record
import AfsToken.Report
import AfsToken.SessionKey.Basic
import AfsToken.SessionKey.Derivation
import AfsToken.Store.Path
import AfsToken.Store.Sink
import AfsToken.Store.System
import AfsToken.Store.Table
import AfsToken.Text.Casing.Basic
import AfsToken.Text.Casing.Mapping
import AfsToken.Text.Casing.Property
import AfsToken.Text.Decimal
import AfsToken.Text.Similarity
import AfsToken.Text.Utf8
import AfsToken.Time.Civil
import AfsToken.Token.Basic
import AfsToken.Token.Run
