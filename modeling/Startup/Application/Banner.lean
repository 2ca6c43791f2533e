/-
The banner that an application prints before its context is made.
-/
namespace Startup

def version : String := "0.1.0"

def banner : String := "\n".intercalate [
  "",
  "   ____ _     _                           ",
  "  / ___| |__ (_)_ __ ___   ___ _ __ __ _ ",
  " | |   | '_ \\| | '_ \x60 _ \\ / _ \\ '__/ _\x60 |",
  " | |___| | | | | | | | | |  __/ | | (_| |",
  "  \\____|_| |_|_|_| |_| |_|\\___|_|  \\__,_|",
  "",
  "  :: Chimera Boot ::        (v" ++ version ++ ")",
  "",
  ""]

end Startup
