import CsrfGuard.CommandLine.Command
import CsrfGuard.CommandLine.Run
import CsrfGuard.CommandLine.Word
import CsrfGuard.Demo.App
import CsrfGuard.Demo.Page
import CsrfGuard.Demo.Route
import CsrfGuard.EntryPoints
import CsrfGuard.Error
import CsrfGuard.Journal
import CsrfGuard.Link
import CsrfGuard.Link.Encoder
import CsrfGuard.Main
import CsrfGuard.Nonce.Cache
import CsrfGuard.Nonce.Generator
import CsrfGuard.Nonce.Slot
import CsrfGuard.Proofs.Demo.DenialStatus
import CsrfGuard.Proofs.Demo.Denials
import CsrfGuard.Proofs.Demo.HandedOut
import CsrfGuard.Proofs.Demo.PageLinks
import CsrfGuard.Proofs.Demo.Routing
import CsrfGuard.Proofs.Demo.TransferAnswer
import CsrfGuard.Proofs.Demo.TransferList
import CsrfGuard.Proofs.EntryPoints.Listing
import CsrfGuard.Proofs.Link.AddedPairs
import CsrfGuard.Proofs.Nonce.Attachment
import CsrfGuard.Proofs.Nonce.Past
import CsrfGuard.Proofs.Nonce.Rendered
import CsrfGuard.Proofs.Nonce.Window
import CsrfGuard.Proofs.Session.Held
import CsrfGuard.Proofs.Session.Lifetime
import CsrfGuard.Proofs.Session.Register
import CsrfGuard.Proofs.Session.UseOrder
import CsrfGuard.Proofs.Text.Cut
import CsrfGuard.Proofs.Text.DigitRow
import CsrfGuard.Proofs.Text.MarkupReader
import CsrfGuard.Proofs.Text.QueryReader
import CsrfGuard.Proofs.Validator.Disguise
import CsrfGuard.Proofs.Validator.FailedIssue
import CsrfGuard.Proofs.Validator.History
import CsrfGuard.Proofs.Validator.Run
import CsrfGuard.Proofs.Validator.Traceless
import CsrfGuard.Proofs.Web.Installation
import CsrfGuard.Proofs.Web.IssuedNonce
import CsrfGuard.Proofs.Web.Options
import CsrfGuard.Proofs.Web.ReadBack
import CsrfGuard.Proofs.Web.Screening
import CsrfGuard.Proofs.Web.StoreUse
import CsrfGuard.Proofs.Web.Target
import CsrfGuard.Proofs.Web.ValidNonce
import CsrfGuard.Proofs.Web.VisitorBook
import CsrfGuard.Session.Basic
import CsrfGuard.Session.Store
import CsrfGuard.Settings
import CsrfGuard.Text.Blank
import CsrfGuard.Text.Capital
import CsrfGuard.Text.Digit
import CsrfGuard.Text.Hex
import CsrfGuard.Text.Markup
import CsrfGuard.Text.Numeral
import CsrfGuard.Text.Percent
import CsrfGuard.Text.Pieces
import CsrfGuard.Text.Printable
import CsrfGuard.Text.Quoted
import CsrfGuard.Validator
import CsrfGuard.Web.Address
import CsrfGuard.Web.Guard
import CsrfGuard.Web.HelperCall
import CsrfGuard.Web.Request
import CsrfGuard.Web.Site
import CsrfGuard.Web.Visit
