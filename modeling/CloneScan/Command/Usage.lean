/-! What is printed on request and not about a tree. -/
namespace CloneScan.Command

def program : String := "cdf"

def versionText : String := program ++ ", version 0.3.0"

def usage : String := "\n".intercalate [
  "Usage: cdf [-v] COMMAND [OPTIONS]",
  "",
  "Finds duplicate code blocks and suggests what to extract.",
  "",
  "Commands:",
  "  analyze [PATH]  scan a tree for duplicates and save the report",
  "  suggest         suggest functions from the saved report",
  "  full [PATH]     analyze, then suggest",
  "  view            show a summary of the saved report",
  "  clean           delete the saved report",
  "",
  "Options of analyze and full:",
  "  -b, --block-size N    lines per block (repeatable)",
  "  --min-tokens N        fewest words of a block",
  "  --min-lines N         lines that an extracted function costs",
  "  --max-blocks N        most blocks of one file",
  "  -e, --ext TEXT        file extension to scan (repeatable)",
  "  -x, --exclude-dir TEXT  directory name to skip (repeatable)",
  "  --top N               groups shown on the console",
  "  --workers N           files read side by side",
  "  -r, --report PATH     where the report is kept",
  "  -o, --output PATH     a further copy of the report (.md, .txt, .json)",
  "  -q, --quiet           no progress bar",
  "",
  "Options of suggest:",
  "  --create              write the template files",
  "  --dry-run             with --create, only show what would be written",
  "  -r, --report PATH     where the report is kept",
  "  -u, --utils-dir PATH  directory of the template files",
  "",
  "Options of view and clean:",
  "  -r, --report PATH     where the report is kept"]

end CloneScan.Command
