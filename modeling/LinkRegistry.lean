import LinkRegistry.Main
import LinkRegistry.Service.Basic
import LinkRegistry.Proofs.Entries
import LinkRegistry.Proofs.Invariant
import LinkRegistry.Proofs.Listing
import LinkRegistry.Proofs.Paging
import LinkRegistry.Proofs.StoredChange
import LinkRegistry.Proofs.PagingUnderChange
import LinkRegistry.Proofs.WireForm
import LinkRegistry.Proofs.WriteCount
import LinkRegistry.Proofs.WireLink
import LinkRegistry.Proofs.Demand
import LinkRegistry.Proofs.StatusTable
import LinkRegistry.Proofs.DefaultInterval
import LinkRegistry.Proofs.LastWrite
import LinkRegistry.Proofs.AllowedRanges
import LinkRegistry.Proofs.Independence
import LinkRegistry.Proofs.RecordTime
import LinkRegistry.Proofs.RecordRoundTrip
import LinkRegistry.Proofs.WireTime
import LinkRegistry.Proofs.FieldReading
import LinkRegistry.Proofs.NormalForm
import LinkRegistry.Proofs.Interchange
import LinkRegistry.Proofs.WriteBack
import LinkRegistry.Proofs.Provenance
import LinkRegistry.Proofs.FreshIds
import LinkRegistry.Proofs.LinkPaths
import LinkRegistry.Proofs.ListedItems
import LinkRegistry.Proofs.PatchComposition
import LinkRegistry.Proofs.AuditTrail
import LinkRegistry.Proofs.TimeAgreement
import LinkRegistry.Proofs.ReadingAgreement
import LinkRegistry.Proofs.PeerOrder
import LinkRegistry.Proofs.LinksAsPatches
import LinkRegistry.Proofs.EndOrder
import LinkRegistry.Proofs.MergeLaws
import LinkRegistry.Proofs.StoredForm
import LinkRegistry.Proofs.AllOrNothing
import LinkRegistry.Proofs.Deletion
import LinkRegistry.Proofs.BothEnds
import LinkRegistry.Proofs.FacingEnds
