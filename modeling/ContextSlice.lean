import ContextSlice.Main
import ContextSlice.Proofs.Configuration.Refinement
import ContextSlice.Proofs.Configuration.Shown
import ContextSlice.Proofs.Configuration.Unreadable
import ContextSlice.Proofs.Dot.ReadBack
import ContextSlice.Proofs.Index.History
import ContextSlice.Proofs.Index.Holders
import ContextSlice.Proofs.Index.Identity
import ContextSlice.Proofs.Registry
import ContextSlice.Proofs.Session.Bookkeeping
import ContextSlice.Proofs.Session.Copies
import ContextSlice.Proofs.Session.DirectReferences
import ContextSlice.Proofs.Session.Edges
import ContextSlice.Proofs.Session.FileSymbols
import ContextSlice.Proofs.Session.FirstNamed
import ContextSlice.Proofs.Session.Growth
import ContextSlice.Proofs.Session.MatchedSymbols
import ContextSlice.Proofs.Session.Queue
import ContextSlice.Proofs.Session.Relationships
import ContextSlice.Proofs.Session.SameBut
import ContextSlice.Proofs.Session.SameSymbols
import ContextSlice.Proofs.Session.StatedEnds
import ContextSlice.Proofs.Snapshot.Chronology
import ContextSlice.Proofs.Tool.ReadBack
