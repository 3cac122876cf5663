import GenericTypes.Proofs.Hierarchy.Chain
import GenericTypes.Proofs.Hierarchy.Lattice

namespace GenericTypes.Host

variable {H : Type} [DecidableEq H] {host : Host H} {start : H} {classes : List H}
  {region : Finset H} {bound : Nat}

theorem lineage_terminates (chain : host.Chain (some start) classes)
    (enoughSteps : classes.length < bound) (closed : host.ClosedRegion region)
    (inside : ∀ upper ∈ host.interfaces start, upper ∈ region) (enoughDepth : region.card < bound)
    (includeSelf : Bool) (lineage : Lineage) :
    (host.lineage bound start includeSelf lineage).Terminates := by
  have chainOffers := chain.superclassChain_offers enoughSteps includeSelf
  have latticeOffers : ∀ includeSelf, ∃ visits,
      (host.interfaceLattice bound start includeSelf).Offers visits := by
    intro includeSelf
    obtain ⟨visits, lattice⟩ := exists_lattice closed inside includeSelf
    exact ⟨visits, lattice.offers closed inside enoughDepth⟩
  cases lineage with
  | chain => exact chainOffers.terminates
  | lattice =>
    obtain ⟨visits, offers⟩ := latticeOffers includeSelf
    exact offers.terminates
  | all =>
    cases interface : host.isInterface start with
    | true =>
      obtain ⟨visits, offers⟩ := latticeOffers includeSelf
      simpa [Host.lineage, ancestors, interface] using offers.terminates
    | false =>
      obtain ⟨visits, offers⟩ := latticeOffers false
      have both := chainOffers.append offers
      simpa [Host.lineage, ancestors, interface] using both.terminates

end GenericTypes.Host
