import PatchCompiler.Catalogue.Basic

/-!
# Patches for messages

Objects that work on messages, written as patches.
-/

namespace PatchCompiler.Library

/-- The patch of an object that only passes messages through one inner object. -/
def unary (type : String) : String × String :=
  (type, "13 20 inlet;13 80 outlet;of 13 50 io __" ++ type ++ ";0 2;2 1")

def messages : List (String × String) :=
  ["abs", "atan", "cos", "log", "sin", "tan"].map unary ++ Catalogue.families [
  (["atan2"], "13 19 inlet;13 80 outlet;of 13 50 ioi __atan2;118 18 inlet;0 2;2 1;3 0 2 1"),
  (["b", "bang"], "9 10 inlet -->;of 9 33 io __cast_b;9 57 outlet -->;0 1;1 2"),
  (["change"], "of 72 169 iioo if;130 199 t f f;22 274 outlet;22 48 route bang set;130 139 != \\$1;
arg 21 305 1 value;22 19 inlet;103 76 t f f;22 244 f \\$1;0 1 1 0;1 8;1 1 4 1;3 8;3 1 4 1;3 1 8 1;
3 2 7 0;4 0 0 1;6 3;7 0;7 1 4 0;8 2"),
  (["clip"], "61 14 inlet;104 14 inlet;arg 14 118 1 lower_threshold;
arg 14 133 2 upper_threshold float 1 false;14 39 min \\$2;14 66 max \\$1;14 92 outlet;14 14 inlet;
0 0 5 1;1 0 4 1;4 5;5 6;7 4"),
  (["dbtopow"], "msg 116 264 10;116 294 pow;116 174 - 100;29 30 inlet;29 342 outlet;29 60 t f f;
116 88 > 0;msg 29 294 0;116 144 min 870;116 234 t a a;of 29 114 iioo __if;116 204 / 10;0 1;1 4;2 11;
3 5;5 10;5 1 6 0;6 0 10 1;7 4;8 2;9 0;9 1 1 1;10 7;10 1 8 0;11 9"),
  (["dbtorms"], "msg 116 264 10;116 294 pow;116 174 - 100;29 30 inlet;29 342 outlet;29 60 t f f;
116 88 > 0;116 144 min 485;msg 29 294 0;of 29 114 iioo __if;116 204 / 20;116 234 t a a;0 1;1 4;2 10;
3 5;5 9;5 1 6 0;6 0 9 1;7 2;8 4;9 8;9 1 7 0;10 11;11 0;11 1 1 1"),
  (["div"], "12 59 outlet;12 12 inlet -->;141 13 inlet -->;arg 11 81 1 k float 1 false;
of 12 35 iio __intdiv \\$1;1 4;2 0 4 1;4 0"),
  (["exp"], "13 19 inlet;13 110 outlet;of 13 80 oi __exp;13 49 min 87.3365;0 3;2 1;3 2"),
  (["f", "float"], "arg 11 119 1 k;of 13 60 ioi __var \\$1;13 90 outlet;13 20 inlet -->;
124 20 inlet -->;1 2;3 1;4 0 1 1"),
  (["ftom"], "21 19 inlet;21 269 outlet;108 139 / 440;108 199 * 12;108 229 + 69;
text 19 299 // Note: Pd's internal implementation of [ftom] uses\ndoubles instead of floats so there will be slight rounding discrepencies.\n;
21 49 t f f;108 79 > 0;msg 21 229 -1500;N canvas 0 22 450 300 @hv_obj 0;43 62 inlet;43 84 outlet;
103 62 inlet;103 84 outlet;0 1;2 3;restore 21 109 pd @hv_obj __if;N canvas 0 22 450 300 @hv_obj 0;
65 52 inlet;65 152 outlet;65 74 log;65 126 /;114 124 log;113 69 loadbang;msg 113 91 2;0 2;2 3;3 1;
4 0 3 1;5 6;6 4;restore 108 169 pd @hv_obj __log2;0 6;2 10;3 4;4 1;6 9;6 1 7 0;7 0 9 1;8 1;9 8;
9 1 2 0;10 3"),
  (["i"], "7 10 inlet;40 31 inlet;7 76 outlet;arg 7 96 1 k;7 52 int \\$1;0 4;1 0 4 1;4 2"),
  (["int"], "14 10 inlet;14 56 f \\$1;35 31 inlet;14 183 outlet;of 14 129 iioo if \\$1;107 104 > 0;
of 134 155 iioo __floor;of 14 155 iioo __ceil;arg 11 205 1 k;14 80 t a a;0 1;1 9;2 0 1 1;4 7;
4 1 6 0;5 0 4 1;6 3;7 3;9 4;9 1 5 0"),
  (["line"], "118 709 outlet;22 17 inlet target;452 120 samplerate~;437 317 / 1000;437 293 *;
118 409 metro 20;464 341 *;465 363 / 1000;118 449 f;148 449 -;msg 118 378 1;118 509 sel 0 1;
msg 174 569 0;118 479 <= 0;159 649 +;371 287 / 20;270 457 /;371 263 t f f;190 276 t f f;
137 539 t b b;text 482 316 num samples to target;text 295 460 slope;214 709 +;
text 469 397 next output value;452 142 t a a;22 47 route stop set;msg 22 232 0;165 202 inlet ramp;
373 17 inlet grain;arg 284 691 1 initial_value;arg 284 707 2 grain float 20 false;150 232 f 0;
msg 103 93 0;373 120 f \\$2;373 70 max 0;373 143 sel 0;msg 373 167 20;432 397 f \\$1;137 569 f;
118 649 f \\$1;62 187 t f b;190 306 -;174 597 t a a;174 621 t a a;195 458 t a a b;373 193 t a a a;
118 679 t a a;413 96 t a a a;137 114 unpack f f;103 70 t b b a b;413 71 loadbang;1 25;2 24;3 0 8 1;
4 3;5 8;6 7;7 0 9 1;8 9;8 13;9 0 8 1;10 5;11 39;11 1 19 0;12 42;13 11;14 0 39 1;15 0 16 1;16 43;
17 15;17 1 4 0;18 41;18 1 38 1;19 38;19 1 12 0;22 37;24 0 4 1;24 1 6 1;25 26;25 1 40 0;25 2 49 0;
26 5;27 0 31 1;28 34;31 17;32 0 31 1;33 35;34 33;35 36;35 1 45 0;36 45;37 0 41 1;38 39;39 14;39 46;
40 44;40 1 26 0;41 16;42 43;42 1 5 0;43 0 14 1;43 1 22 1;44 0 39 1;44 1 22 0;44 2 12 0;45 0 5 1;
45 1 15 1;45 2 6 0;46 0;46 1 22 0;47 33;47 1 37 0;47 2 2 0;48 18;48 1 17 0;49 32;49 1 10 0;
49 2 48 0;49 3 31 0;50 47"),
  (["loadbang"], "12 11 r __hv_init \\$1;12 34 outlet;arg 12 58 1 priority int 0 false;0 1"),
  (["metro"], "62 50 inlet;255 7 inlet;62 205 outlet;arg 112 206 1 period float 1000 false;
of 62 76 iooo __switchcase 0 stop;msg 150 145 clear;62 175 t a a;of 150 175 iioi __delay;
62 122 bang;62 145 t a a;text 264 162 minimum period is set to one sample;255 145 max 1;
292 76 samplerate~;292 99 / 1000;255 123 *;255 76 f \\$1;265 52 t a a;265 29 loadbang;0 4;1 15;4 5;
4 1 5 0;4 2 8 0;5 7;6 2;6 1 7 0;7 6;8 9;9 6;9 1 5 0;11 0 7 2;12 13;13 0 14 1;14 11;15 14;16 15;
16 1 12 0;17 16"),
  (["moses"], "15 12 inlet;129 12 inlet;15 122 outlet;102 122 outlet;102 63 >= \\$1;
arg 13 162 1 threshold;15 35 t a a;of 15 92 iioo __if;0 6;1 0 4 1;4 0 7 1;6 7;6 1 4 0;7 2;
7 1 3 0"),
  (["mtof"], "text 24 213 // Note: Pd's internal implementation of [mtof] uses\ndoubles instead of floats so there will be slight rounding discrepencies.\n;
25 20 inlet;25 185 outlet;25 162 * 440;25 44 - 69;25 68 / 12;25 139 pow 1;msg 25 116 2;25 92 t a a;
1 4;3 2;4 5;5 8;6 3;7 6;8 7;8 1 6 1"),
  (["pipe"], "14 16 inlet;137 16 inlet;14 62 outlet;arg 12 87 1 delay;of 14 39 iio __delay \\$1;0 4;
1 0 4 1;4 2"),
  (["powtodb"], "26 21 inlet;26 273 outlet;26 51 t f f;msg 26 225 0;113 195 + 100;113 225 max 0;
113 79 > 0;113 165 * 10;of 26 105 iioo __if;of 113 135 io __log10;0 2;2 8;2 1 6 0;3 1;4 5;5 1;
6 0 8 1;7 4;8 3;8 1 9 0;9 7"),
  (["random"], "13 10 inlet;34 105 inlet;13 172 outlet;13 128 * \\$1;of 13 150 io floor;
arg 12 192 1 range float 2 false;of 13 83 iio random;of 13 57 io slice 1 1;
of 13 34 ioo __switchcase seed;0 8;1 0 3 1;3 4;4 2;6 3;7 0 6 1;8 7;8 1 6 0"),
  (["rmstodb"], "26 21 inlet;26 273 outlet;26 51 t f f;msg 26 225 0;113 165 * 20;113 195 + 100;
113 225 max 0;113 79 > 0;of 26 105 iioo __if;of 113 135 io __log10;0 2;2 8;2 1 7 0;3 1;4 5;5 6;6 1;
7 0 8 1;8 3;8 1 9 0;9 4"),
  (["spigot"], "10 8 inlet;103 44 inlet;103 92 outlet;arg 8 118 1 is_true;of 10 68 iioo if \\$1;0 4;
1 0 4 1;4 1 2 0"),
  (["sqrt"], "16 9 inlet;16 59 outlet;of 16 34 io __sqrt;0 2;2 1"),
  (["swap"], "28 26 inlet;107 26 inlet;28 196 outlet;220 189 outlet;220 149 f;28 106 t b b;
193 109 t b f;28 156 f \\$1;of 28 66 ioo __switchcase bang;arg 27 235 1 k;0 8;1 0 7 1;4 3;5 7;
5 1 4 0;6 7;6 1 4 0;7 2;8 5;8 1 6 0"),
  (["symbol"], "13 9 inlet;13 53 outlet;of 13 31 ioi __var \\$1;124 9 inlet;
arg 13 74 1 k string \"\" false;0 2;2 1;3 0 2 1"),
  (["timer"], "24 23 inlet, f 6;136 23 inlet;83 272 outlet;of 24 115 io system;
msg 24 85 currentTime;82 161 -;of 136 115 io system;msg 136 85 currentTime;83 247 /;136 53 t a a;
of 163 177 io system;msg 163 147 samplerate;163 207 / 1000;0 4;1 9;3 0 5 1;4 3;5 8;6 5;7 6;8 2;9 7;
9 1 11 0;10 12;11 10;12 0 8 1"),
  (["until"], "39 26 inlet;78 236 t f f;78 296 spigot 0;123 266 <;78 206 f;125 167 + 1;
105 357 outlet;39 106 moses 1;39 76 int;78 326 t f b;170 24 inlet;msg 170 76 0;39 48 t f b;
msg 66 76 1;125 136 spigot 1;msg 39 394 input needs to be >= 1;39 424 print (heavy) until error;
78 167 f 0;78 136 t b f;0 12;1 2;1 1 3 0;2 9;3 0 2 1;4 1;5 4;7 15;7 1 18 0;8 7;9 14;9 1 6 0;10 11;
11 0 14 1;12 8;12 1 13 0;13 0 14 1;14 5;15 16;17 4;18 17;18 1 3 1;coords 0 478 1 477 111 106 0"),
  (["wrap"], "39 30 inlet;39 150 -;39 180 outlet;N canvas 0 22 450 300 @hv_obj 0;118 64 inlet;
118 86 outlet;0 1;restore 66 120 pd @hv_obj __floor;39 90 t a a;N canvas 0 22 450 300 @hv_obj 0;
87 75 inlet;87 97 outlet;0 1;restore 39 60 pd @hv_obj __cast_f;0 5;1 2;3 0 1 1;4 1;4 1 3 0;5 4")]

end PatchCompiler.Library
