import PatchCompiler.Value.Basic

/-!
# Further patches

Objects that exist only here: patches, and a graph that needs no reading of a patch.
-/

namespace PatchCompiler.Library

def object (arguments : Record) (x y : Value) (type : String) : Value :=
  .record [("annotations", .record []), ("args", .record arguments),
    ("properties", .record [("x", x), ("y", y)]), ("type", .text type)]

def port (index : Int) (name type : String) (x y : Int) (kind : String) : Value :=
  object [("index", .int index), ("name", .text name), ("type", .text type)] (.int x) (.int y) kind

def remark (text x y : String) : Value :=
  object [("mime", .text "text/plain"), ("text", .text text)] (.text x) (.text y) "comment"

def wire (source : String) (outlet : Int) (target : String) (inlet : Int) (type : String) : Value :=
  .record [("from", .record [("id", .text source), ("outlet", .int outlet)]),
    ("to", .record [("id", .text target), ("inlet", .int inlet)]), ("type", .text type)]

def routeGraph : Value :=
  .record [("args", .record []), ("connections", .list [
    wire "inlet_ofY1a" 0 "__switchcase_PyIvC" 0 "-->",
    wire "__switchcase_PyIvC" 0 "__slice_1AcsG" 0 "-->",
    wire "__slice_1AcsG" 0 "outlet_EWlrg" 0 "-->",
    wire "__switchcase_PyIvC" 1 "outlet_zxBnk" 0 "-->"]),
  ("objects", .record [
    ("__slice_1AcsG",
      object [("index", .int 1), ("length", .int (-1))] (.int 10) (.int 50) "__slice"),
    ("__switchcase_PyIvC",
      object [("cases", .list [.text "xyz"])] (.int 10) (.int 50) "__switchcase"),
    ("inlet_ofY1a", port 0 "" "-->" 10 10 "inlet"),
    ("outlet_EWlrg", port 0 "xyz" "-->" 10 10 "outlet"),
    ("outlet_zxBnk", port 1 "" "-->" 10 10 "outlet")]), ("type", .text "graph")]

def lorenzSignalGraph : Value :=
  .record [("args", .list []), ("connections", .list [
    wire "__lorenz~f_7dUFW" 0 "outlet~_Lf24h" 0 "~f>",
    wire "__lorenz~f_7dUFW" 1 "outlet~_aCD1q" 0 "~f>",
    wire "__lorenz~f_7dUFW" 2 "outlet~_pOs6O" 0 "~f>",
    wire "inlet~_l0vgT" 0 "__lorenz~f_7dUFW" 0 "~f>",
    wire "inlet~_fGKSc" 0 "__lorenz~f_7dUFW" 1 "~f>",
    wire "inlet~_IdP6v" 0 "__lorenz~f_7dUFW" 2 "~f>",
    wire "inlet~_jm5dl" 0 "__lorenz~f_7dUFW" 3 "~f>",
    wire "inlet~_l0vgT" 0 "route_Ymaxs" 0 "-->", wire "route_Ymaxs" 0 "__lorenz~f_7dUFW" 4 "-->"]),
  ("imports", .list []), ("objects", .record [
    ("__lorenz~f_7dUFW",
      object [("x", .int 0), ("y", .int 0), ("z", .int 0)] (.int 30) (.int 140) "__lorenz~f"),
    ("comment_2QlQ0", remark "connection from the first [inlet~] to the [route]" "174" "99"),
    ("comment_JloHn", remark "NOTE(joe): there is supposed to be a control" "175" "86"),
    ("inlet~_IdP6v", port 2 "" "~f>" 91 70 "inlet"),
    ("inlet~_fGKSc", port 1 "" "~f>" 60 50 "inlet"),
    ("inlet~_jm5dl", port 3 "" "~f>" 122 90 "inlet"),
    ("inlet~_l0vgT", port 0 "" "~f>" 30 29 "inlet"),
    ("outlet~_Lf24h", port 0 "x" "~f>" 30 170 "outlet"),
    ("outlet~_aCD1q", port 1 "y" "~f>" 91 170 "outlet"),
    ("outlet~_pOs6O", port 2 "z" "~f>" 153 170 "outlet"), ("route_Ymaxs", routeGraph)]),
  ("properties", .record [("x", .int 0), ("y", .int 0)]), ("type", .text "graph")]

def further : List (String × String) :=
  [
  ("conv~", "of 25 155 OIii __conv~f \\$1 \\$2;arg 24 232 2 size int 0 false;
arg 24 210 1 table string \"\" true;25 15 inlet~;172 65 loadbang;msg 172 110 table \\$1 size;
of 172 133 io system;text 37 46 measured after initialisation;
text 37 35 NOTE(mhroth): ensure that the table size is;172 87 symbol \\$1;25 183 outlet~;
98 132 inlet;0 10;3 0;4 9;5 6;6 0 0 2;9 5;11 0 0 1"),
  ("lorenz~", "of 30 140 IIIIOOOi __lorenz~f;30 29 inlet~;60 50 inlet~;91 70 inlet~;122 90 inlet~;
30 170 outlet~ x;91 170 outlet~ y;153 170 outlet~ z;
text 175 86 NOTE(joe): there is supposed to be a control;153 117 route xyz;
text 174 99 connection from the first [inlet~] to the [route];0 5;0 1 6 0;0 2 7 0;1 0;2 0 0 1;
3 0 0 2;4 0 0 3;9 0 0 4")]

def graphs : List (String × Value) :=
  [("lorenz~", lorenzSignalGraph)]

end PatchCompiler.Library
