import ArtifactFetch.Downloader.Session
import ArtifactFetch.Settings.Store
import ArtifactFetch.Proofs.Downloader.SecondFetch
import ArtifactFetch.Proofs.Downloader.Abandoned
import ArtifactFetch.Proofs.Downloader.Growth
import ArtifactFetch.Proofs.Registration.Atomic
import ArtifactFetch.Proofs.Pool.Closing
import ArtifactFetch.Proofs.Downloader.Shutdown
import ArtifactFetch.Proofs.Downloader.Notice
import ArtifactFetch.Proofs.Downloader.Listening
import ArtifactFetch.Proofs.Downloader.Panics
import ArtifactFetch.Proofs.Settings.Partial
import ArtifactFetch.Proofs.Settings.Store
import ArtifactFetch.Proofs.Settings.Lenient
import ArtifactFetch.Proofs.Registration.Effect
import ArtifactFetch.Proofs.Coordinate.Key
import ArtifactFetch.Proofs.Downloader.Joining
import ArtifactFetch.Proofs.Downloader.Waiters
import ArtifactFetch.Proofs.Registration.Commuting
import ArtifactFetch.Proofs.Pool.FirstCome
import ArtifactFetch.Proofs.Downloader.TimeLimit
import ArtifactFetch.Proofs.Downloader.FailedRequest
import ArtifactFetch.Proofs.Classpath.Boot
import ArtifactFetch.Proofs.Coordinate.Text
import ArtifactFetch.Proofs.Coordinate.Json
import ArtifactFetch.Proofs.Coordinate.Layout
import ArtifactFetch.Proofs.Downloader.Recognition
import ArtifactFetch.Proofs.Repositories
import ArtifactFetch.Proofs.Downloader.Asking
import ArtifactFetch.Proofs.Digest.Reading
import ArtifactFetch.Proofs.Artifact.Acceptance
