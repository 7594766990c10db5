import SerialNovel.Data.Schema
import SerialNovel.Main
import SerialNovel.Session
import SerialNovel.Proofs.Markup.Lossless
import SerialNovel.Proofs.Playback.Reading
import SerialNovel.Proofs.Playback.Timers
import SerialNovel.Proofs.Script.Partition
import SerialNovel.Proofs.Playback.Cadence
import SerialNovel.Proofs.Playback.Timeline
import SerialNovel.Proofs.Markup.Intercept
import SerialNovel.Proofs.Script.Block
import SerialNovel.Proofs.Notation.Ids
import SerialNovel.Proofs.Store.Refinement
import SerialNovel.Proofs.Script.Agreement
import SerialNovel.Proofs.Page.Cards
import SerialNovel.Proofs.Page.RawTags
import SerialNovel.Proofs.Playback.RunOut
import SerialNovel.Proofs.Script.Concatenation
import SerialNovel.Proofs.Library.Places
import SerialNovel.Proofs.Playback.Postponement
import SerialNovel.Proofs.Script.Attribution
import SerialNovel.Proofs.Session.Navigation
import SerialNovel.Proofs.Timer.Fates
import SerialNovel.Proofs.Session.Bookkeeping
import SerialNovel.Proofs.Script.Spacing
import SerialNovel.Proofs.Playback.Progress
import SerialNovel.Proofs.Data.RoundTrip
import SerialNovel.Proofs.Playback.Surface
import SerialNovel.Proofs.Script.Rewrapping
import SerialNovel.Proofs.Script.Speech
import SerialNovel.Proofs.Script.Directives
import SerialNovel.Proofs.Markup.Stripping
import SerialNovel.Proofs.Markup.Canonical
import SerialNovel.Proofs.Page.Lifting
import SerialNovel.Proofs.Timer.Draining
import SerialNovel.Proofs.Store.Contents
import SerialNovel.Proofs.Markup.Comms
import SerialNovel.Proofs.Script.WellFormed
import SerialNovel.Proofs.Script.Speakers
import SerialNovel.Proofs.Script.JumpLabels
import SerialNovel.Proofs.Tool.Report
import SerialNovel.Proofs.Script.Unquoting
import SerialNovel.Proofs.Markup.Joining
