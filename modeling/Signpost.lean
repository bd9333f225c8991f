import Signpost.Session
import Signpost.Proofs.Chain.Commuting
import Signpost.Proofs.Chain.Dispatching
import Signpost.Proofs.Chain.Mounting
import Signpost.Proofs.Chain.Nesting
import Signpost.Proofs.Chain.Records
import Signpost.Proofs.Chain.Refusal
import Signpost.Proofs.Chain.Rendering
import Signpost.Proofs.Chain.Reordering
import Signpost.Proofs.Chain.Throwing
import Signpost.Proofs.Http.BodyReading
import Signpost.Proofs.Http.HeaderSetting
import Signpost.Proofs.Methods.Histories
import Signpost.Proofs.Regex.Code
import Signpost.Proofs.Regex.Find
import Signpost.Proofs.Regex.Match
import Signpost.Proofs.Regex.Reading
import Signpost.Proofs.Regex.Sequence
import Signpost.Proofs.Route.Ending
import Signpost.Proofs.Route.OwnGroups
import Signpost.Proofs.Route.PlainMatch
import Signpost.Proofs.Route.PlainPath
import Signpost.Proofs.Route.Respelling
import Signpost.Proofs.Route.Slicing
import Signpost.Proofs.Route.SlugGroups
import Signpost.Proofs.Route.TrailingQuery
import Signpost.Proofs.Router.Actions
import Signpost.Proofs.Router.Merging
import Signpost.Proofs.Router.Registration
