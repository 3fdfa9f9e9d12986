import InstanceScripts.CommandLine
import InstanceScripts.Main
import InstanceScripts.Staging.Tree
import InstanceScripts.Proofs.Http.Attempt
import InstanceScripts.Proofs.Session.Download
import InstanceScripts.Proofs.Script.Origin
import InstanceScripts.Proofs.Session.Step
import InstanceScripts.Proofs.Metadata.Query
import InstanceScripts.Proofs.Session.Staging
import InstanceScripts.Proofs.Session.TokenCache
import InstanceScripts.Proofs.Session.Declared
import InstanceScripts.Proofs.Http.Confinement
import InstanceScripts.Proofs.Session.Confinement
import InstanceScripts.Proofs.Http.Answer
import InstanceScripts.Proofs.Session.Delivery
import InstanceScripts.Proofs.Http.Presentation
import InstanceScripts.Proofs.Session.Presentation
import InstanceScripts.Proofs.Http.Parallel
import InstanceScripts.Proofs.Session.Independence
import InstanceScripts.Proofs.Text.Order
import InstanceScripts.Proofs.Yaml.Merge
import InstanceScripts.Proofs.Settings.Decoding
import InstanceScripts.Proofs.Settings.Layers
import InstanceScripts.Proofs.Settings.Directory
import InstanceScripts.Proofs.Settings.Precedence
import InstanceScripts.Proofs.Settings.Unusable
import InstanceScripts.Proofs.Session.Transparency
import InstanceScripts.Proofs.Session.Relation
import InstanceScripts.Proofs.Retry.Exact
import InstanceScripts.Proofs.Script.Pattern
import InstanceScripts.Proofs.Script.Grammar
import InstanceScripts.Proofs.Http.Direct
import InstanceScripts.Proofs.Session.Agreement
import InstanceScripts.Proofs.CommandLine.Ending
import InstanceScripts.Proofs.Script.Object
import InstanceScripts.Proofs.Url.Hosted
import InstanceScripts.Proofs.Session.Redirect
import InstanceScripts.Proofs.Session.Fallback
import InstanceScripts.Proofs.Metadata.Answer
import InstanceScripts.Proofs.Yaml.Pointwise
import InstanceScripts.Proofs.Yaml.Layering
import InstanceScripts.Proofs.Yaml.Absorption
import InstanceScripts.Proofs.Yaml.Reading
import InstanceScripts.Proofs.Settings.Listing
import InstanceScripts.Proofs.Session.Failing
import InstanceScripts.Proofs.Text.Decoding
import InstanceScripts.Proofs.Yaml.Meaning
import InstanceScripts.Proofs.Settings.Validity
import InstanceScripts.Proofs.Settings.Readings
