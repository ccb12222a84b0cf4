/-!
# Patches for tables and delays

Objects that read and write tables and delay lines, written as patches.
-/

namespace PatchCompiler.Library

def memory : List (String × String) :=
  [
  ("del", "13 16 inlet;58 16 inlet;13 67 outlet;arg 12 94 1 delay;13 42 delay \\$1;0 4;1 0 4 1;
4 2"),
  ("delay", "21 20 inlet;144 20 inlet;21 221 outlet;arg 67 221 1 delay;
of 21 43 ioo __switchcase stop;msg 21 149 clear;of 21 196 iio __delay \\$1;186 67 t b a a;0 4;
1 0 6 1;4 5;4 1 7 0;5 6;6 2;7 6;7 1 6 1;7 2 5 0"),
  ("delread~", "of 17 86 io __tabhead del-\\$1;32 111 samplerate~;text 66 156 ms to samples;
32 156 * \\$2;32 134 / 1000;17 226 -;of 83 298 io system;msg 83 274 table \\$1 size;
of 83 251 io __var del-\\$1;of 87 436 iioi __delay \\$2;75 520 outlet~;
arg 74 562 2 delay float 10 true;arg 74 543 1 table string \"\" true;msg 95 407 clear;224 469 t a a;
of 87 469 iioi __delay;95 6 inlet delay-ms;17 6 loadbang -1;
text 205 7 NOTE(mhroth): there may be an issue here in which;
text 223 24 tabread sets itself to a different offset than;
text 224 42 the input \\, due to alignment issues.;
text 224 58 But the first delay is set based on the original offset\n;
text 224 74 which may account for the difference of a few samples\n;msg 47 178 @HV_N_SIMD;
text 56 201 add minimum delay of HV_N_SIMD;32 200 max;56 345 t b a a;17 32 t a a;17 57 t a a a;
210 412 * -1;210 391 -;text 263 469 delay from one end of the table to the other;
text 222 435 delay from current head to the end of the table;95 31 t b a;
of 75 497 iOo __tabread~f del-\\$1;0 5;1 4;3 25;4 3;5 26;6 0 30 1;6 0 15 2;7 6;8 7;9 15;9 34;13 9;
13 15;14 15;14 1 34 0;15 14;16 33;17 27;23 0 25 1;25 0 5 1;26 9;26 1 34 0;26 2 13 0;27 28;27 1 23 0;
28 0;28 1 1 0;28 2 8 0;29 0 9 2;30 29;33 28;33 1 3 1;34 10;34 1 30 0"),
  ("delwrite~", "10 181 inlet~;of 10 206 Ii __tabwrite~f del-\\$1;arg 9 253 2 delay float 0 true;
187 31 samplerate~;187 71 * \\$2;of 187 111 io table del-\\$1;msg 187 91 resize \\$1;
arg 9 234 1 table string \"\" true;187 51 / 1000;of 187 159 iiio __delay;187 8 loadbang;
187 182 t a a a;msg 226 228 mirror;of 226 206 iiio __delay;187 134 t b a a, f 25;
text 254 90 returns the size of the table;msg 331 159 @HV_N_SIMD;0 1;3 8;4 6;5 14;6 5;8 4;9 11;10 3;
11 0 1 1;11 1 9 0;11 2 13 0;12 5;13 12;14 9;14 1 9 2;14 2 16 0;16 0 13 2"),
  ("tabosc4~", "9 196 *~;of 24 152 io system;msg 24 130 table \\$1 size;of 24 108 io __var \\$1;
9 431 outlet~;24 359 -~;52 359 -~;24 383 *~;9 406 +~;text 78 360 linear interpolation;
of 9 233 IO __floor~f;of 9 259 IO __cast~fi;of 180 288 IOI __add~i;of 285 266 iO __var_k~i 1;
arg 6 455 1 table string \"\" true;of 180 310 IOi __tabread~if \\$1;of 9 310 IOi __tabread~if \\$1;
24 174 - 2;of 162 29 ioo __switchcase set;of 162 52 io slice 1 1;108 39 inlet;24 85 loadbang -1;
of 9 62 iiO phasor;9 3 inlet -~>;0 10;0 6;1 17;2 1;3 2;5 7;6 0 7 1;7 0 8 1;8 4;10 0 6 1;10 11;11 16;
11 12;12 15;13 0 12 1;15 5;16 8;16 0 5 1;17 0 0 1;18 19;19 3;19 0 16 1;19 0 15 1;20 0 22 1;21 3;
22 0;23 18;23 22"),
  ("tabplay~", "315 85 tabplay~;155 234 outlet~;134 27 inlet;of 122 129 iiO __tabread~f;
156 59 route set stop;4 1 3 1"),
  ("tabread", "13 10 inlet -->;64 272 outlet -->;of 64 242 iio __tabread \\$1;13 32 route set;
arg 63 293 1 table string \"\" true;of 105 152 io system;64 92 max 0;64 62 t f b;105 92 symbol \\$1;
64 212 min 0;msg 105 122 table \\$1 length;105 182 - 1;0 3;2 1;3 0 2 1;3 1 7 0;5 11;6 9;7 6;7 1 8 0;
8 10;9 2;10 5;11 0 9 1"),
  ("tabread4~", "10 424 outlet~;25 352 -~;53 352 -~;25 376 *~;10 399 +~;
text 79 353 linear interpolation;of 10 252 IO __cast~fi;of 181 281 IOI __add~i;
of 286 259 iO __var_k~i 1;arg 7 448 1 table string \"\" true;10 201 max~ 0;of 81 130 io system;
10 178 min~;81 154 - 2;text 52 201 the sample delay may not exceed the table boundaries\n;
msg 81 108 table \\$1 size;of 181 303 IOi __tabread~if \\$1;of 10 303 IOi __tabread~if \\$1;
of 163 38 ioo __switchcase set;text 162 7 NOTE(mhroth): there is supposed to be a control;
text 161 20 connection from the left inlet to the switchcase;of 163 61 io slice 1 1;
of 81 86 io __var \\$1;81 60 loadbang -1;of 10 227 IO __floor~f;328 79 inlet;
text 327 60 a \"fake\" inlet to mimic onset messages;10 154 inlet~ -~>;1 3;2 0 3 1;3 0 4 1;4 0;6 17;
6 7;7 16;8 0 7 1;10 2;10 24;11 13;12 10;13 0 12 1;15 11;16 1;17 4;17 0 1 1;18 21;21 0 16 1;
21 0 17 1;21 22;22 15;23 22;24 0 2 1;24 6;27 12;27 18"),
  ("tabread~", "10 273 outlet~;of 10 226 IO __cast~fi;arg 7 297 1 table string \"\" true;
10 201 max~ 0;of 81 130 io system;10 178 min~;
text 52 201 the sample delay may not exceed the table boundaries\n;msg 81 108 table \\$1 size;
of 10 249 IOi __tabread~if \\$1;of 163 38 ioo __switchcase set;
text 162 7 NOTE(mhroth): there is supposed to be a control;
text 161 20 connection from the left inlet to the switchcase;of 163 61 io slice 1 1;
of 81 86 io __var \\$1;81 154 - 1;81 60 loadbang -1;10 154 inlet~ -~>;1 8;3 1;4 14;5 3;7 4;8 0;9 12;
12 0 8 1;12 13;13 7;14 0 5 1;15 13;16 5;16 9"),
  ("tabwrite", "12 13 inlet -->;82 13 inlet -->;12 84 outlet -->;of 12 62 ioii __tabwrite \\$1;
12 35 route set;arg 12 105 1 table string \"\" true;0 4;1 0 3 1;3 2;4 0 3 2;4 1 3 0"),
  ("tabwrite~", "of 80 35 ioooo __switchcase start stop set;of 230 57 ioii slice 1 1;
of 80 57 ioiio slice 1 1;arg 8 499 1 table string \"\" true;
of 9 479 iiI __tabwrite_stoppable~f \\$1;text 234 479 tabwrite~ starts in stopped state;
320 296 / 1000;305 318 /;msg 305 80 0;text 366 296 samples per ms;text 329 319 ms per sample;
of 336 167 io system;msg 336 143 table \\$1 size;305 187 -;305 207 * -1;305 340 t a a a;
text 39 178 TODO(mhroth): deal with OOB indicies;msg 316 363 clear;msg 152 446 stop;
of 305 385 iio __delay;text 79 3 NOTE(mhroth): there is supposed to be a control;
text 78 16 connection from the left inlet to the switchcase;msg 320 249 samplerate;
of 320 273 io system;of 336 120 ioi __var \\$1;336 97 loadbang;320 226 loadbang;164 420 loadbang;
msg 197 81 0;9 35 inlet~ -~>;0 2;0 1 18 0;0 2 1 0;0 3 8 0;1 0 4 2;1 24;2 0 4 1;2 13;2 1 28 0;
6 0 7 1;7 15;8 0 4 1;8 13;11 0 13 1;12 11;13 14;14 7;15 19;15 1 19 1;15 2 17 0;17 19;18 0 4 1;19 18;
22 23;23 6;24 12;25 24;26 22;27 18;28 0 4 1;28 13;29 4;29 0"),
  ("vd~", "19 26 inlet~;4 638 outlet~;19 163 *~;34 116 samplerate~;
text 79 140 convert millisecond delay to sample delay;of 95 93 io system;4 302 -~;4 409 +~;
text 33 301 table index;19 565 -~;47 565 -~;19 589 *~;4 613 +~;text 73 566 linear interpolation;
of 35 385 IOI __and~f;4 279 +~;68 26 t a a;of 150 363 IOI __lt~f;of 4 438 IO __cast~fi;
of 195 478 IOI __add~i;of 300 456 iO __var_k~i 1;of 249 341 iO __var_k~f 0;95 49 symbol del-\\$1;
34 139 / 1000;of 4 234 Oi __tabhead~f del-\\$1;of 195 501 IOi __tabread~if del-\\$1;
of 4 501 IOi __tabread~if del-\\$1;arg 182 49 1 table string \"\" true;
of 27 257 iO __var_k~f -1 -1 true;68 4 loadbang -1;msg 95 71 table \\$1 size;
text 150 430 NOTE(mhroth): SSE cast op seems to round to the nearest\nint \\, not down;
19 210 max~ 0;19 188 min~;text 70 202 [0 \\, size-1];
text 71 187 ensure that the input never exceeds the table bounds\n;45 163 - 1;of 4 331 IO __floor~f;
text 30 412 wrapped table index;of 35 362 iO var;0 2;2 33;3 23;5 36;5 39;6 37;6 10;7 18;9 11;
10 0 11 1;11 0 12 1;12 1;14 0 7 1;15 6;16 3;16 1 22 0;17 0 14 1;18 26;18 19;19 25;20 0 19 1;
21 0 17 1;22 30;23 0 2 1;24 15;25 9;26 0 9 1;26 12;28 0 15 1;29 16;30 5;32 0 6 1;33 32;36 0 33 1;
37 17;37 0 10 1;37 7;39 14")]

end PatchCompiler.Library
