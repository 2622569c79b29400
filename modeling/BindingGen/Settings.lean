/-
# Settings of a binding

What the C declarations do not tell: which prefixes names drop, which results and parameters may
be null, which pointers are read as well as written, which classes have no subclasses, and the
lines and macros of the generated module.

Key definitions: `Settings`, `Settings.curated`.
-/

namespace BindingGen

/-- The settings that guide how a library is bound. Tables go from the name of a C function to
Haskell names of its parameters. -/
structure Settings where
  /-- Prefixes that names drop in front of an upper-case letter. -/
  knownPrefixes : List String := ["Gtk", "Gdk", "Pango", "Atk", "G"]
  /-- Words of C function names that are spelled in another way. -/
  wordFixes : List (String × String) := []
  /-- Functions whose result may be null. -/
  nullableResults : List String := []
  /-- Parameters that may be null. -/
  nullableParameters : List (String × List String) := []
  /-- Pointer parameters that are read before they are written. -/
  inoutParameters : List (String × List String) := []
  /-- Parameters whose documentation is left out. -/
  silencedParameters : List (String × List String) := []
  /-- Classes that have no subclasses. -/
  leafClasses : List String := []
  /-- The type that every object type descends from. -/
  rootType : String := "GObject"
  /-- The type whose descendants start with a floating reference. -/
  floatingType : String := "GtkObject"
  /-- The macro that compares the version built against. -/
  versionMacro : String := "GTK_CHECK_VERSION"
  /-- The macro that leaves deprecated declarations out. -/
  deprecatedMacro : String := "DISABLE_DEPRECATED"
  /-- Modules whose imports come first. -/
  standardModules : List String := ["Maybe", "Monad", "Char", "List", "Data.IORef"]
  /-- The first imports of a new module. -/
  standardImports : List String := ["import Monad\t(liftM)"]
  /-- The other imports of a new module. -/
  furtherImports : List String :=
    ["import System.Glib.FFI", "\x7b#import Graphics.UI.Gtk.Types#\x7d",
      "-- CHECKME: extra imports may be required"]
  /-- The width that documentation is wrapped to. -/
  lineWidth : Int := 80

namespace Settings

/-- Whether a table of function parameters lists a parameter. -/
def lists (table : List (String × List String)) (function parameter : String) : Bool :=
  ((table.lookup function).getD []).contains parameter

/-- Whether a function's result may be null. -/
def maybeNullResult (s : Settings) (function : String) : Bool := s.nullableResults.contains function

/-- Whether a parameter may be null. -/
def maybeNullParameter (s : Settings) (function parameter : String) : Bool :=
  lists s.nullableParameters function parameter

/-- Whether a pointer parameter is read before it is written. -/
def isInout (s : Settings) (function parameter : String) : Bool :=
  lists s.inoutParameters function parameter

/-- Whether the documentation of a parameter is left out. -/
def isSilenced (s : Settings) (function parameter : String) : Bool :=
  lists s.silencedParameters function parameter

/-- Whether a class has no subclasses. -/
def isLeaf (s : Settings) (cname : String) : Bool := s.leafClasses.contains cname

/-- A word of a C function name as it is spelled. -/
def fixWord (s : Settings) (word : String) : String := (s.wordFixes.lookup word).getD word

/-- The settings for the widget library. -/
def curated : Settings where
  wordFixes :=
    [("hadjustment", "hAdjustment"), ("vadjustment", "vAdjustment"), ("hscrollbar", "hScrollbar"),
      ("vscrollbar", "vScrollbar"), ("uri", "URI"), ("uris", "URIs")]
  nullableResults :=
    ["gtk_widget_get_parent", "gtk_widget_get_toplevel", "gtk_window_get_focus",
      "gtk_window_get_title", "gtk_button_get_image", "gtk_label_get_mnemonic_widget",
      "gtk_notebook_get_tab_label", "gtk_entry_get_completion"]
  nullableParameters :=
    [("gtk_button_set_image", ["image"]), ("gtk_window_set_focus", ["focus"]),
      ("gtk_window_set_transient_for", ["parent"]), ("gtk_label_set_mnemonic_widget", ["widget"]),
      ("gtk_notebook_append_page", ["tabLabel"]), ("gtk_entry_set_completion", ["completion"])]
  inoutParameters := [("gtk_text_iter_forward_search", ["matchStart", "matchEnd"])]
  silencedParameters :=
    [("gtk_widget_get_size_request", ["widget"]), ("gtk_window_get_size", ["window"])]
  leafClasses :=
    ["GtkAccelGroup", "GtkAdjustment", "GtkArrow", "GtkCalendar", "GtkClipboard",
      "GtkDrawingArea", "GtkEntryCompletion", "GtkFileChooserButton", "GtkHSeparator", "GtkImage",
      "GtkProgressBar", "GtkSizeGroup", "GtkSpinner", "GtkStatusbar", "GtkTextMark",
      "GtkTooltips", "GtkVSeparator"]

end Settings
end BindingGen
