import ProxySettings.Proofs.LayeredSettings
import ProxySettings.Proofs.PathWalk

/-!
# Loaded settings

Settings are loaded from the nearest files of fixed names, or from one file, and in both cases the
variables lie above the files.
-/

namespace ProxySettings

/-! ## The nearest file of a name -/

namespace World

end World

namespace Settings

/-- With a path the only file is the one at the path. -/
theorem result_load {w : World} {path : String} {bytes : List UInt8} {format : FileFormat}
    (hfile : w.file? path = some bytes)
    (hformat : (World.extension? path).bind FileFormat.ofExtension? = some format) :
    (load w path).result = [Source.file format (some bytes)].mapM Source.layer >>= fun layers ↦
      (ofLayers (layers ++ [Variable.layer w.environment])).result := by
  rw [load, hfile, hformat]
  simp only [Traced.result_bind, Traced.result_lift, List.mapM_cons, List.mapM_nil, bind_assoc,
    pure_bind]
  rfl

/-- A file that gives a port of a wrong type, and a name that no field has. -/
def sampleBytes : List UInt8 := Utf8.encode "\x7b\"port\": \"none\", \"extra\": 1\x7d"

/-- A world with a file that gives a port of a wrong type, and with a variable for the port. -/
def sampleWorld : World where
  entries := [(["settings.json"], .file sampleBytes)]
  workDir := .ok "/"
  home := some "/"
  environment := [("mitmproxy_PORT", "9090")]

end Settings

end ProxySettings
