import SqlText.Desk.Question
import SqlText.Report
import SqlText.Proofs.Literal.ReadBack
import SqlText.Proofs.Desk.Injection
import SqlText.Proofs.Quotation
import SqlText.Proofs.Desk.Agreement
import SqlText.Proofs.Desk.Atomicity
import SqlText.Proofs.Catalog
import SqlText.Proofs.Precedence
import SqlText.Proofs.Route
import SqlText.Proofs.Desk.Refusal
import SqlText.Proofs.Desk.Formatting
import SqlText.Proofs.Url.Outcome
import SqlText.Proofs.Desk.Rendering
import SqlText.Proofs.Delivery
import SqlText.Proofs.Token.Canonical
import SqlText.Proofs.Token.Unescape
import SqlText.Proofs.Literal.Datetime
import SqlText.Proofs.Literal.Sequence
import SqlText.Proofs.Literal.Visit
import SqlText.Proofs.Literal.Registration
import SqlText.Proofs.Literal.Unsupported
import SqlText.Proofs.Desk.Retirement
import SqlText.Proofs.Catalog.History
import SqlText.Proofs.Url.Driver
import SqlText.Proofs.Desk.Ending
import SqlText.Proofs.Desk.Constancy
import SqlText.Proofs.Desk.Notice
import SqlText.Proofs.Advice
import SqlText.Proofs.Literal.Exact
