import LinkPress.Main
import LinkPress.Proofs.Outcome
import LinkPress.Proofs.Target.Spelling
import LinkPress.Proofs.Target.Diagnosis
import LinkPress.Proofs.Shortcut.Slots
import LinkPress.Proofs.Text.Bytes
import LinkPress.Proofs.Url.Reading
import LinkPress.Proofs.Url.Segments
import LinkPress.Proofs.Catalog.Packages
import LinkPress.Proofs.Files.Listing
import LinkPress.Proofs.Document.Expansion
import LinkPress.Proofs.Document.Strictness
import LinkPress.Proofs.Document.Frame
import LinkPress.Proofs.Document.Canonical
import LinkPress.Proofs.Document.HeadingIds
import LinkPress.Proofs.Document.Completion
import LinkPress.Proofs.Catalog.Hosts
import LinkPress.Proofs.Site.Accounting
import LinkPress.Proofs.Files.Places
import LinkPress.Proofs.Files.Writing
import LinkPress.Proofs.Files.Naming
import LinkPress.Proofs.Site.Outputs
import LinkPress.Proofs.Command.Publishing
import LinkPress.Proofs.Document.Extension
import LinkPress.Proofs.Html.Joining
import LinkPress.Proofs.Text.Rows
import LinkPress.Proofs.Site.FrontMatter
import LinkPress.Proofs.Files.Making
import LinkPress.Proofs.Files.Ways
import LinkPress.Proofs.Files.Holding
import LinkPress.Proofs.Site.Clashes
import LinkPress.Proofs.Command.FreshFolder
import LinkPress.Proofs.Document.Retargeting
import LinkPress.Proofs.Site.Isolation
import LinkPress.Proofs.Site.Shadowing
import LinkPress.Proofs.Command.Resolving
import LinkPress.Proofs.Shortcut.Filling
import LinkPress.Proofs.Shortcut.Aliases
import LinkPress.Proofs.Site.Markup
import LinkPress.Proofs.Url.Forms
import LinkPress.Proofs.Catalog.Searches
import LinkPress.Proofs.Catalog.Landings
import LinkPress.Proofs.Document.IdChoice
import LinkPress.Proofs.Document.SlugShape
import LinkPress.Proofs.Document.Visiting
import LinkPress.Proofs.Document.Independence
import LinkPress.Proofs.Site.Fencing
import LinkPress.Proofs.Site.Loading
import LinkPress.Proofs.Text.Trimming
import LinkPress.Proofs.Catalog.Spellings
import LinkPress.Proofs.Catalog.Options
import LinkPress.Proofs.Site.Addresses
import LinkPress.Proofs.Command.Listing
