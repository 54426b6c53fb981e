import PathGlob.Cache
import PathGlob.Document.Numeral
import PathGlob.Options.Document
import PathGlob.PatternSet
import PathGlob.Proofs.Cache.History
import PathGlob.Proofs.Pattern.Values
import PathGlob.Proofs.Cache.Omission
import PathGlob.Proofs.Cache.Stamps
import PathGlob.Proofs.Pattern.Tokens
import PathGlob.Proofs.PatternSet.Building
import PathGlob.Proofs.Pattern.Offsets
import PathGlob.Proofs.Pattern.Viability
import PathGlob.Proofs.Pattern.Compilability
import PathGlob.Proofs.Pattern.DuplicatePolicies
import PathGlob.Proofs.Pattern.Truncation
import PathGlob.Proofs.Pattern.Separators
import PathGlob.Proofs.Pattern.RenamedVariables
import PathGlob.Proofs.Pattern.Quoting
import PathGlob.Proofs.Pattern.Escaping
import PathGlob.Proofs.SizeLimits
import PathGlob.Proofs.Pattern.TrailingStars
import PathGlob.Proofs.Announcements
import PathGlob.Proofs.Cache.Accounting
import PathGlob.Proofs.Options.WrittenForms
import PathGlob.Proofs.Pattern.SlotSearch
import PathGlob.Proofs.Pattern.DeclarationBoundaries
