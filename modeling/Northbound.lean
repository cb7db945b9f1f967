import Northbound.Archive.Entries
import Northbound.Archive.Extraction
import Northbound.Config.Basic
import Northbound.Proofs.Address.Rendering
import Northbound.Proofs.Archive.Containment
import Northbound.Proofs.Archive.Entries
import Northbound.Proofs.Archive.PathIdentity
import Northbound.Proofs.Archive.RefusedPath
import Northbound.Proofs.Archive.StreamDecoding
import Northbound.Proofs.Archive.WalkCourse
import Northbound.Proofs.Connection.Server
import Northbound.Proofs.Http.Concerns
import Northbound.Proofs.Http.Course
import Northbound.Proofs.LookupCache
import Northbound.Proofs.Package.ManifestLines
import Northbound.Proofs.Package.Reproducible
import Northbound.Proofs.Package.RoundTrip
import Northbound.Proofs.Session.Collections
import Northbound.Proofs.Session.Confinement
import Northbound.Proofs.Session.DirectoryUpload
import Northbound.Proofs.Session.EmptyBearer
import Northbound.Proofs.Session.Fetched
import Northbound.Proofs.Session.Operations
import Northbound.Proofs.Session.Origins
import Northbound.Proofs.Session.Parameters
import Northbound.Proofs.Session.Recreation
import Northbound.Proofs.Session.RefusedBearer
import Northbound.Proofs.Session.TokenBody
import Northbound.Proofs.Token
import Northbound.Session.Run
import Northbound.Url.Reader
