import PatchCompiler.Catalogue.Basic

/-!
# Patches for the user interface

Boxes of the user interface, written as patches.
-/

namespace PatchCompiler.Library

def interface : List (String × String) :=
  Catalogue.families [
  (["bng"], "9 10 inlet -->;of 9 33 io __cast_b;9 57 outlet -->;0 1;1 2"),
  (["cnv"], "text 11 10 // this patch is left blank \\, as the cnv object has\nno fuction in Heavy"),
  (["floatatom"], "17 9 inlet;17 55 outlet;arg 15 76 1 k;17 32 f \\$1;0 3;3 1"),
  (["hradio", "hsl", "nbx", "vradio", "vsl"], "24 35 inlet;24 57 float 0;24 79 outlet;0 1;1 2"),
  (["symbolatom"], "16 9 inlet;16 55 outlet;16 32 symbol \\$1;arg 14 74 1 k string \"\" false;0 2;
2 1"),
  (["tgl"], "32 32 inlet;71 64 == 0;32 96 outlet;32 64 f 1;0 3;1 0 3 1;3 1;3 2"),
  (["declare"], "text 35 49 // dummy object"),
  (["print"], "of 21 51 i print \\$1;21 21 inlet;arg 19 83 1 label string print false;1 0")]

end PatchCompiler.Library
