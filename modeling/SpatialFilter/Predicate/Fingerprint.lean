import SpatialFilter.Digest.Sha256
import SpatialFilter.Predicate.Json

/-! Fingerprints tell predicates apart by the digest of their canonical text. -/
namespace SpatialFilter.Predicate

def fingerprint (p : Predicate) : String := Sha256.hex p.jsonText.toUTF8.toList

end SpatialFilter.Predicate
