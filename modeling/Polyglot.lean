import Polyglot.Configuration.Sample
import Polyglot.Main
import Polyglot.Proofs.Catalog.Acceptance
import Polyglot.Proofs.Command.Running
import Polyglot.Proofs.Configuration.Layers
import Polyglot.Proofs.Delivery.ExactlyOnce
import Polyglot.Proofs.Detection.Kept
import Polyglot.Proofs.Directive.Behind
import Polyglot.Proofs.Directive.Grammar
import Polyglot.Proofs.Directive.Stripping
import Polyglot.Proofs.Document.Refusals
import Polyglot.Proofs.Document.Routing
import Polyglot.Proofs.Host.LastWrites
import Polyglot.Proofs.Host.Lifetimes
import Polyglot.Proofs.Host.SettingParameters
import Polyglot.Proofs.Localizer.CarriersAgree
import Polyglot.Proofs.Localizer.Commuting
import Polyglot.Proofs.Localizer.Confined
import Polyglot.Proofs.Localizer.CurrentLanguage
import Polyglot.Proofs.Localizer.Exempt
import Polyglot.Proofs.Localizer.Interpolation
import Polyglot.Proofs.Localizer.Materialized
import Polyglot.Proofs.Localizer.OwnLanguage
import Polyglot.Proofs.Localizer.PathIndependence
import Polyglot.Proofs.Localizer.PendingFlag
import Polyglot.Proofs.Localizer.Quiet
import Polyglot.Proofs.Localizer.Writing
import Polyglot.Proofs.Localizer.WrittenComments
import Polyglot.Proofs.Webpage.ReadBack
import Polyglot.Session.Run
