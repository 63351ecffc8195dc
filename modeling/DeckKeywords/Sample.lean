/-
DeckKeywords/Sample.lean

Small keyword tables to try things with.  The English one covers more versions
than the German one; its first module has a parameter with the name of a
command of the second module, and its commands carry tags of every kind.
-/
namespace DeckKeywords.Sample

/-- An English table. -/
def english : String :=
  String.intercalate "\n" [
    "\x7b",
    "  \"_meta\": \x7b",
    "    \"versions\": [\"2018\", \"2020\", \"2022\", \"2023\", \"2024\", \"2025\", \"2026\"],",
    "    \"default\": \"2025\"",
    "  \x7d,",
    "  \"SOFIMSHC\": \x7b",
    "    \"SYST\": \x7b \"params\": \x7b \"TYPE\": [\"SPAC\", \"GIRD\", \"FRAM\"], " ++
      "\"BEAM\": null \x7d \x7d,",
    "    \"GDIV\": \x7b\x7d",
    "  \x7d,",
    "  \"AQUA\": \x7b",
    "    \"BEAM\": \x7b \"version\": \"2020-2024\", \"params\": \x7b \"NO\": null, " ++
      "\"TYPE\": [\"I\", \"T\", \"BOX\"] \x7d \x7d,",
    "    \"CONC\": \x7b \"params\": \x7b \"NO\": null, \"TYPE\": [\"C\", \"B\", \"LC\"] \x7d \x7d,",
    "    \"STEE\": \x7b \"version\": \"2022\", \"params\": \x7b \"NO\": null, " ++
      "\"TYPE\": [\"S\", \"B\"] \x7d \x7d,",
    "    \"OLD\": \x7b \"version\": \"2020,2024\" \x7d,",
    "    \"NORM\": \x7b \"params\": \x7b \"DC\": [\"EN\", \"DIN\", \"SIA\"] \x7d \x7d",
    "  \x7d,",
    "  \"SOFILOAD\": \x7b",
    "    \"LC\": \x7b \"params\": \x7b \"NO\": null, \"TYPE\": [\"G\", \"Q\", \"P\"] \x7d \x7d,",
    "    \"LOAD\": [\"TYPE\", \"P1\"]",
    "  \x7d",
    "\x7d"]

/-- A German table. -/
def german : String :=
  String.intercalate "\n" [
    "\x7b",
    "  \"_meta\": \x7b \"versions\": [\"2022\", \"2024\"], \"default\": \"2024\" \x7d,",
    "  \"AQUA\": \x7b",
    "    \"BETO\": \x7b \"params\": \x7b \"NR\": null, \"ART\": [\"C\", \"B\"] \x7d \x7d,",
    "    \"NORM\": \x7b \"version\": \"2024\", \"params\": \x7b \"DC\": [\"EN\", " ++
      "\"DIN\"] \x7d \x7d",
    "  \x7d",
    "\x7d"]

end DeckKeywords.Sample
