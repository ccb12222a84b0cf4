/-!
# Patches for filters

Filters and samplers of signals, written as patches.
-/

namespace PatchCompiler.Library

def filters : List (String × String) :=
  [
  ("biquad~", "25 355 outlet~;166 303 * -1;202 303 * -1;
text 95 15 NOTE(mhroth): there is supposed to be a control;
of 25 332 IOiiiii biquad \\$3 \\$4 \\$5 0 0;arg 262 62 3 x0 float 1 false;arg 262 80 4 x1;
arg 262 100 5 x2;arg 262 119 1 y0;arg 262 139 2 y1;of 62 110 io __slice 0 1;
of 86 133 io __slice 1 1;of 109 156 io __slice 2 1;of 134 179 io __slice 3 1;
of 162 202 io __slice 4 1;166 226 loadbang;text 94 28 connection from the left inlet to the trigger;
of 166 255 io __var \\$1;of 202 276 io __var \\$2;25 23 inlet~ -~>;
N canvas 0 22 162 66 to_control 0;17 10 inlet;17 32 outlet;0 1;restore 62 67 pd to_control;1 0 4 4;
2 0 4 5;4 0;10 1;11 2;12 0 4 1;13 0 4 2;14 0 4 3;15 17;15 18;17 1;18 2;19 20;19 4;20 10;20 11;20 12;
20 13;20 14"),
  ("bp~", "18 21 inlet~;108 21 inlet fc;18 538 outlet~;108 179 /;186 128 samplerate~;
167 77 loadbang;108 123 f \\$1;of 18 513 iiiiOiI biquad;108 153 * 6.28319;
arg 13 584 2 q float 1 false;arg 13 566 1 fc float 22050 false;176 21 inlet q;206 153 f \\$2;
167 100 t a a a;108 230 /;147 310 * -1;147 332 + 1;text 70 179 omega;text 46 233 oneminusr;
text 133 332 r;193 310 cos;193 334 * 2;147 378 *;text 108 378 coef1;176 48 t b a, f 9;
text 154 426 coef2;192 426 * -1;129 488 * -1;106 465 * -1;40 465 * 2;80 444 *;108 204 t a a a, f 29;
192 392 pow 2;65 465 +;40 488 *;108 285 t a a a;text 64 487 gain;text 149 132 fc;text 237 152 q;
206 176 max 0.001;108 258 min 1;128 354 t a a a;0 7;1 6;3 31;4 0 3 1;5 13;6 8;7 2;8 3;11 24;12 39;
13 6;13 1 4 0;13 2 12 0;14 40;15 16;16 41;20 21;21 0 22 1;22 28;24 6;24 1 12 0;26 27;27 0 7 5;
28 0 7 4;29 34;30 0 33 1;31 14;31 1 20 0;31 2 30 1;32 26;33 0 34 1;34 0 7 1;35 29;35 1 33 0;
35 2 15 0;39 0 14 1;40 35;41 30;41 1 22 0;41 2 32 0"),
  ("cpole~", "59 35 inlet~;20 15 inlet~;137 145 outlet~;98 77 *~ -1;137 76 inlet~;98 55 inlet~;
of 20 120 IIOIIO __cpole~f;20 145 outlet~;137 98 *~ -1;0 0 6 1;1 6;3 0 6 2;4 8;5 3;6 7;6 1 2 0;
8 0 6 3"),
  ("czero_rev~", "164 237 outlet~;24 237 outlet~;24 24 inlet~ a;106 24 inlet~ b;194 24 inlet~ c;
277 24 inlet~ d;of 24 177 OI __del1~f e;of 164 177 OI __del1~f f;106 107 *~;39 147 -~;39 107 *~;
24 207 -~;262 105 *~;179 107 *~;164 207 -~;179 147 +~;2 6;2 10;2 12;3 7;3 8;3 13;4 0 10 1;4 0 13 1;
5 0 8 1;5 0 12 1;6 11;7 14;8 0 9 1;9 0 11 1;10 9;11 1;12 0 15 1;13 15;14 0;15 0 14 1"),
  ("czero~", "207 217 outlet~;16 233 outlet~;16 211 +~;146 139 *~;25 139 *~;16 18 inlet~ a;
161 16 inlet~ b;220 17 inlet~ c;280 17 inlet~ d;of 25 63 OI __del1~f e;of 161 63 OI __del1~f f;
31 185 -~;205 139 *~;265 139 *~;250 164 +~;207 193 -~;2 1;3 11;4 0 11 1;5 9;5 2;6 10;6 15;7 0 4 1;
7 0 12 1;8 3;8 0 13 1;9 4;9 13;10 0 3 1;10 12;11 0 2 1;12 14;13 0 14 1;14 0 15 1;15 0"),
  ("env~", "20 19 inlet~;20 65 outlet;of 20 42 Io __env~f \\$1 \\$2;
arg 19 91 1 windowSize float 1024 false;arg 19 109 2 period float 512 false;0 2;2 1"),
  ("hip~", "arg 96 432 1 fc;172 361 + 1;172 383 * 0.5;28 411 *~;msg 145 197 1 \\$1;145 217 -;
145 237 clip 0 1;61 360 sig~ 1;28 387 rzero~;145 310 sig~;169 50 loadbang;145 105 f \\$1;
169 75 t a a;28 432 outlet~;145 257 t a a;28 27 inlet~;145 27 inlet fc;of 28 335 IIO __rpole~f;
145 284 * -1;145 126 max 1;196 105 samplerate~;145 148 * 6.28319;145 173 /;
text 193 125 hip~ 0 in Pd is a passthrough \\, so we limit the cutoff\n;1 2;2 0 3 1;3 13;4 5;5 6;
6 14;7 0 8 1;8 3;9 0 17 1;10 12;11 19;12 11;12 1 20 0;14 18;14 1 1 0;15 17;16 11;17 8;18 9;19 21;
20 0 22 1;21 22;22 4"),
  ("lop~", "arg 21 347 1 fc float 22050 false;62 70 loadbang;23 22 inlet~;38 125 f \\$1;
N canvas 870 68 227 202 hz2rad 0;88 50 samplerate~;28 148 *;28 178 outlet;28 20 inlet fc;
88 20 inlet init;88 108 /, f 5;msg 88 76 6.28319 \\$1;0 6;1 2;3 1;4 0;5 0 1 1;6 5;
restore 38 150 pd hz2rad;23 227 *~;38 47 inlet;140 274 sig~;23 325 outlet~;38 176 clip 0 1;
38 202 t a a;62 95 t a a;of 23 298 IIO __rpole~f;140 250 - 1;1 11;2 5;3 4;4 9;5 12;6 3;7 0 12 1;
9 10;10 0 5 1;10 1 13 0;11 3;11 1 4 1;12 8;13 7"),
  ("rpole~", "130 16 inlet~;13 16 inlet~;13 84 outlet~;of 13 61 IIO __rpole~f;130 38 *~ -1;0 4;1 3;
3 2;4 0 3 1"),
  ("rzero_rev~", "71 18 inlet~;16 18 inlet~;16 163 outlet~;of 16 96 OI __del1~f;31 64 *~;16 141 -~;
0 0 4 1;1 3;1 4;3 5;4 0 5 1;5 2"),
  ("rzero~", "46 65 inlet~;16 18 inlet~;16 133 outlet~;of 31 43 OI __del1~f;31 88 *~;16 111 -~;
text 65 18 Implements Pd's H(z) = 1 - a*z^-1;0 0 4 1;1 3;1 5;3 4;4 0 5 1;5 2"),
  ("samphold~", "12 114 outlet~;of 12 86 OII __samphold~f;12 12 inlet~;147 12 inlet~;
of 246 38 OI __del1~f;of 147 61 IIO __lt~f;1 0;2 1;3 4;3 5;4 0 5 1;5 0 1 1"),
  ("snapshot~", "15 61 outlet;of 15 36 Ioi __sample~f;
text 65 59 NOTE(mhroth): there is supposed to be a control;
text 64 72 connection from the inlet to the right __sample~f inlet\n;15 11 inlet~ -~>;1 0;4 1;
4 0 1 1"),
  ("vcf~", "96 11 inlet~ f;260 11 inlet q;msg 361 189 1 \\$1;361 212 /;text 384 213 invq;
260 147 + 2;msg 260 168 2 \\$1;260 189 /;msg 260 212 2 \\$1;260 234 -;text 284 235 ampcorrect;
144 103 samplerate~;112 143 /;97 166 *~;97 372 *~;112 403 sig~ 1;97 433 -~;136 566 outlet~;
19 566 outlet~;msg 112 123 6.28319 \\$1;19 419 *~;19 455 *~;97 496 *~;224 482 *~;254 397 *~;
239 437 -~;239 458 sqrt~;text 277 457 sin;N canvas 0 23 450 300 @hv_obj 0;188 51 inlet~;
135 50 inlet~;209 193 outlet~;290 50 inlet~;235 50 inlet~;137 192 outlet~;146 125 cpole~;
235 72 *~ -1;291 72 *~ -1;0 0 6 1;1 6;3 8;4 7;6 5;6 1 2 0;7 0 6 2;8 0 6 3;
restore 19 543 pd @hv_obj __cpole~f;text 125 431 -r = cf*qinv-1;text 122 495 -coefr;
text 251 482 -coefi;260 53 f \\$1;171 11 loadbang;N canvas 0 23 450 300 @hv_obj 0;131 90 inlet~;
131 156 cos~;131 177 outlet~;131 126 /~ 6.28319;0 3;1 2;3 1;restore 254 368 pd @hv_obj __cos~f;
19 11 inlet~ in;msg 260 119 0;361 235 t a;171 32 t a a;97 329 min~;msg 231 119 -1;
text 125 372 oneminusr = cf*qinv;260 76 moses 1e-05;text 333 90 > 0;text 147 246 cf [1e-05 \\, pi];
97 247 max~ 1e-05;0 13;1 32;2 3;3 37;5 6;6 7;7 8;8 9;9 0 21 1;11 19;12 0 13 1;13 45;14 0 20 1;14 16;
15 0 16 1;15 25;16 22;16 23;19 12;20 21;21 28;22 0 28 2;23 0 28 3;24 0 25 1;25 26;26 0 23 1;28 18;
28 1 17 0;32 42;33 38;34 24;34 0 24 1;34 0 22 1;35 20;36 5;37 0 14 1;38 32;38 1 11 0;39 14;
40 0 39 1;40 0 14 1;42 36;42 40;42 1 2 0;42 1 5 0;42 1 39 1;45 39;45 34")]

end PatchCompiler.Library
