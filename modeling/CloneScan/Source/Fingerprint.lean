import CloneScan.Digest.Md5
import CloneScan.Source.Normal
import CloneScan.Text.Utf8

/-! The fingerprint of source text: the digest of its normal form. -/
namespace CloneScan.Source

def fingerprint (code : String) : String := Md5.hexDigest (Text.Utf8.encode (normalize code))

/-- Only the normal form matters. -/
theorem fingerprint_congr {a b : String} (h : normalize a = normalize b) :
    fingerprint a = fingerprint b := by
  rw [fingerprint, h, fingerprint]

end CloneScan.Source
