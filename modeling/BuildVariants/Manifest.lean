import BuildVariants.Variant.Basic
import BuildVariants.Xml.Document
import BuildVariants.Xml.Encoding

/-!
# Manifests

A manifest is an XML file whose root element may name a package. The whole file has to be
well-formed, whatever the root element says.
-/

namespace BuildVariants.Manifest

def fault (path : Path) : Xml.EncodingFault → Fault
  | .malformed => .package (.unreadable path .malformed)
  | .unknown => .value .unknownEncoding
  | .multiByte => .value .multiByteEncoding
  | .unmapped => .value .unmappedEncoding
  | .escaped => .value .escapedEncoding

def packageOfBytes (path : Path) (bytes : ByteArray) : Except Fault (Option String) :=
  match Xml.decode bytes.toList with
  | .error f => .error (fault path f)
  | .ok cs =>
    match Xml.rootAttributes? cs with
    | none => .error (fault path .malformed)
    | some attributes =>
      let value := (attributes.find? fun a => a.name = "package".toList).map (·.value)
      .ok (Setting.given? (value.map String.ofList))

/-- Reads manifests from files. -/
def reader (files : Files) : ManifestReader := fun path =>
  match files.read path with
  | .error (.cannotOpen f) => .error (.package (.unreadable path (.cannotOpen f)))
  | .error .nulInPath => .error (.value .nulInPath)
  | .ok bytes => packageOfBytes path bytes

end BuildVariants.Manifest
