import Readiness.Unicode.CodeSet
import Readiness.Unicode.Replacement

/-! What becomes of characters in domain names.

A character beyond ASCII is kept, left out, replaced or refused. What is kept or put in its place is
still to be brought into its composed form. -/

namespace Readiness.Url.Domain

open Readiness.Unicode

/-- Code points that may stand in a name as far as they are composed. -/
def kept : CodeSet :=
  CodeSet.ofLines
    ["a1:6 1 1:1 1 1:1 4:1 3 3 17 7:20 1 1 1 1 1 1 1 1 1 1 1 1 1 1 1 1 1 1 1 1 1 1 1 1 1 3 1:1 1",
     "1 1 3 1 1 1 2 1 1 1 1 1 1 1 1 1 1 1 1 1 1 1 1 1 1 1 1 1 1 2 1 1 1 2 1 2 3:1 4 2 3:2 2 2 1",
     "1 2 1:1 1 2 3 1 2:2 1:6 a 1 1 1 1 1 1 1:1 1 1 1 1 1 1 1 1 1:1 4 3 1 1 1 1 1 1 1 1 1 1 1 1",
     "1 1 1 1 1 1 1 1 1 1 1 1 1 1 1 1 1:6 2 2:1 1 4 1 1 1 1:60 9:1e 6:1 5:5f 1:8 1:1f 1 1:2 1",
     "3:3 8 8 1b:22 8 1 1 1 1 1 1 1 1 1 1 1 1 3 2 1 2:1 33:2f 1 1 1 1 1 1 1 1 1 1 1 1 1 1 1 1",
     "1:8 1 1 1 1 1 1 1 1 1 1 1 1 1 1 1 1 1 1 1 1 1 1 1 1 1 1 1 2 1 1 1 1 1 1:1 1 1 1 1 1 1 1 1",
     "1 1 1 1 1 1 1 1 1 1 1 1 1 1 1 1 1 1 1 1 1 1 1 1 1 1 1 1 1 1 1 1 1 1 1 1 1 1 1 1 29:2d 1:2",
     "2:2 1:36 8:1a 4:5 11:15 1:57 4:63 1:2f 2:3a 2:64 e:3a 2:30 2:e 1:1b 2 1:a 5:1e 8:4a 1:a0",
     "1:7 2:1 2:15 1:6 1 3:3 2:8 2:1 2:3 8 4:1 1:4 2:18 2:2 1:5 4:1 2:15 1:6 1:1 1:1 1:1 2 1:4",
     "4:1 2:2 3 7:3 1 7:10 a:2 1:8 1:2 1:15 1:6 1:1 1:4 2:9 1:2 1:2 2 f:3 2:b 7:6 1:2 1:7 2:1",
     "2:15 1:6 1:1 1:4 2:8 2:1 2:2 7:2 4:1 1:4 2:11 a:1 1:5 3:2 1:3 3:1 1 1:1 3:1 3:2 3:b 4:4",
     "3:2 1:3 2 6 e:14 5:c 1:2 1:16 1:f 2:8 1:2 1:3 7:1 1:2 2 2:3 2:9 7:15 1:2 1:16 1:9 1:4 2:8",
     "1:2 1:3 7:1 6:1 1:3 2:9 1:2 c:c 1:2 1:32 1:2 1:5 4:f 2:19 1:2 1:11 3:17 1:8 1 2:6 3 4:5 1",
     "1:7 6:9 2:2 c:31 1:6 4:1c 25:1 1 1:4 1:17 1 1:b 1:9 2:4 1 1:6 1:9 4:1 20:b 1:3a 1:23 4:5 1",
     "1:1d 1:23 1:e 1:c 25:9f 30:2b 1:61 2:e7 1:3 2:6 1 1:3 2:28 1:3 2:20 1:3 2:6 1 1:3 2:e 1:38",
     "1:3 2:42 2:1f 3:19 6:55 a:27f 1:1b 3:58 7:15 9:17 9:13 c:c 1:2 1:1 c:33 2:27 2:9 6:9 6:a",
     "5:9 6:58 7:2a 5:45 a:1e 1:b 4:b 4 3:29 2:4 b:2b 4:19 6:a 3:3d 2:40 1:1c 2:a 6:9 6:d 2:1e",
     "31:4c 1:a5 8:3b 3:e 3:32 a 35:7 8:2a 5:2b 3 b 12 1c:c 1:21 25:3f 1 1 1 1 1 1 1 1 1 1 1 1 1",
     "1 1 1 1 1 1 1 1 1 1 1 1 1 1 1 1 1 1 1 1 1 1 1 1 1 1 1 1 1 1 1 1 1 1 1 1 1 1 1 1 1 1 1 1 1",
     "1 1 1 1 1 1 1 1 1 1 1 1 1 1 1 1 1:4 2:1 1 1 1 1 1 1 1 1 1 1 1 1 1 1 1 1 1 1 1 1 1 1 1 1 1",
     "1 1 1 1 1 1 1 1 1 1 1 1 1 1 1 1 1 1 1 1 1 1 1 1:8 8:5 a:7 8:7 8:5 a:7 8:7 8:d 32:1 4 7 7",
     "9:3 2:1 8:7 7 6 15:1 2 1:4 1:b 3 8:2 2 2:3 1 1:7 3:c 1:6 41:7 1:17 f:20 13 3 b 2:1 5:1 3 1",
     "1 1 4 b 6:3 5:5 30:2 1:4 1:1 4:9b 2 2:1f8 16:a a0:520 1:66 3:fc 2:1f 1:68 30:2f 1 3:1 1 1",
     "1 4 1:1 1:5 5 1 1 1 1 1 1 1 1 1 1 1 1 1 1 1 1 1 1 1 1 1 1 1 1 1 1 1 1 1 1 1 1 1 1 1 1 1 1",
     "1 1 1 1 1 1 1 1 1 1 1:7 1 1:3 1 5:2c 1 5 2:37 8 e:17 9:6 1:6 1:6 1:6 1:6 1:6 1:6 1:6 1:7d",
     "22:19 1:3 1:52 10e 1:32 1 3:4 1:55 2:1 2:1 1:5e 6:2a 60:1 e:45 a:f 48:7 2f 180:708c 3:36",
     "9:15b 15 1 1 1 1 1 1 1 1 1 1 1 1 1 1 1 1 1 1 1 1 1 1:12 1 1 1 1 1 1 1 1 1 1 1 1 1 1 2:59",
     "8:21 1 1 1 1 1 1 1:2 1 1 1 1 1 1 1 1 1 1 1 1 1 1 1 1 1 1 1 1 1 1 1 1 1 1 1 1 1 1 1 1:7 1 1",
     "2 1 1 1 1:3 1 1:1 1 1:2 1 1 1 1 1 1 1 1 1 1 5 5 1 1 1 1 1 1 1 4 1 2 3 1 1 1 1 1 1a:1 2:32",
     "3:9 6:37 8:45 8:b 6:73 b:1d 3:4d 1:a 4:20 1:36 9:d 2:9 2:66 18:1b a:5 2:5 2:5 9:6 1:6 1:2b",
     "4:8 1:1 54:2d 2:9 6:2ba3 c:16 4:30 2104:16d 2:69 43:2 a:c 1:4 1 1:1 1:1 1:8 63:10 17b:11",
     "7f 2d:2 20:f 15:1 2c 18c:b 1:19 1:12 1:1 1:e 2:d 22:7a 5:2 4:2c 3:57 1:c 3 2f:2d 82:1c",
     "3:30 f:1b 4:23 9:1d 5:2a 5:1d 1:24 4:d 52:75 2:9 2e:23 4:27 8:33 b 27:a 1:e 1:6 1:1 3:33",
     "c:136 9:15 a:7 18 7f:5 2 1:2b 1:1 3 2:16 1:47 8:8 30:12 1:1 5:20 3:1a 5 40:37 4:13 2:31",
     "1:1 5:7 1:2 1:1c 2:2 4:9 7:8 7:3f 20:26 4:b 9:35 3:1c 2:1a 5:19 7:3 c:6 50:48 77:32 7:2d",
     "8:9 6:f 19:1c 8:1 d0:1e 1:29 1:2 2:1 10:2 37:2b 8:29 16:19 26:1b 14:16 9:4d 4:23 9:3d 1:4",
     "d:18 7:9 6:34 1:11 8:26 9:5f 1:13 b:11 1:2e 3e:6 1 1:3 1:e 1:a 6:3a 5:9 6:3 1:7 2:1 2:15",
     "1:6 1:1 1:4 1:9 2:1 2:2 2 6 5:6 2:6 3:4 b:9 1 2 1:25 1:9 1 2 1:3 1:9 1:1 8:1 1d:5b 1:4",
     "1e:47 8:9 a6:35 2:25 22:44 b:9 6:c 13:39 6:9 6:13 1c:1a 2:e 4:16 b9:3b 84:32 c:7 2 2:7 1:1",
     "1:1d 1:1 2:b 9:9 46:7 2:2d 2:a 1b:47 8:52 d:48 7:9 b6:21 e:9 6:8 1:2c 1:d a:1c 3:1f 2:15",
     "1:d 49:6 1:1 1:2b 3 1:1 1:8 8:9 6:5 1:1 1:24 1:1 1:5 7:9 136:18 7:10 1:28 3:1c 55 f:31",
     "d:39a 66:6e 1:4 b:c3 a4c:62 d:42f 10:15 a:f9a 5:246 1ab9:39 6c6:238 7:1e 1:9 4:50 1:9 6:1d",
     "2:5 a:45 a:9 1:6 1:14 5:12 1b0:39 e6:3a 65:4a 4:38 7:10 40:4 b:1 e:17f7 8:4d5 29:9 22e7:3",
     "1:6 1:1 1:122 f 1d:2 2 e:3 8:18b 904:6a 5:c 3:8 7:9 2:3 f60:d5 2a:1b3 4c:2d 2:16 9:73",
     "3c:f5 a:26 2:49 8:6f 15:45 7a:13 c:13 c:56 9:18 487:28b f:4 1:e 450:1e 6:5 d5:6 1:10 2:6",
     "1:1 1:4 64 70:2c 3:d 2:9 4:1 140:1e 11:39 5 1d0:29 d6:2a 4 1e0:6 1:3 1:1 1:e 1:c4 2:f",
     "4b:29 4:9 4:1 311:43 4c:3c 1b2:1 10e:2b 4:63 c:e 2:e 1:e 1:24 15:4 1f 20:19 3:22 1:1c",
     "38:19 60:5 9a:3d7 4:10 3:c 3:76 4:5e 6:b 4 f:b 4:37 8:9 6:27 8:1d 2:b 4:1 3e:153 c:d 2:c",
     "3:9 5:37 7:e 2:a 6:8 7:92 1:5b 410:a6df 20:1039 6:dd 2:1681 e:1d30 f:26d 9a2:21d 5e2:134a",
     "5:105f"]

/-- Code points without any effect in a name. -/
def leftOut : CodeSet :=
  CodeSet.ofLines
    ["ad 2a1 e0f:1 653:1 55:4 7fb 54:4 5:5 10f4 cc9b:f ef a0 bcff:3 14cf:7 c2f85:ef"]

/-- The packed table of replacements. -/
def replacementTable : List String :=
  ["a0>20 8>20,308 2>61 5>20,304 3:1>32 2>20,301 1>3bc 3>20,327 1>31 1>6f 2>31,2044,34",
   "1>31,2044,32 1>33,2044,34 2:16>e0 18:6>f8 28;17>101 30>69,307 2>69,6a 1>69,6a 1;1>135",
   "5;2>13a 6>6c,b7 1>6c,b7 1;3>142 8>2bc,6e 1;16>14b 2e>ff 1;2>17a 6>73 2>253 1;1>183 4>254",
   "1>188 2:1>256 2>18c 3>1dd 1>259 1>25b 1>192 2>260 1>263 2>269 1>268 1>199 4>26f 1>272",
   "2>275 1;2>1a1 6>280 1>1a8 2>283 3>1ad 2>288 1>1b0 2:1>28a 2;1>1b4 4>292 1>1b9 4>1bd",
   "8>64,17e 1>64,17e 1>64,17e 1>6c,6a 1>6c,6a 1>6c,6a 1>6e,6a 1>6e,6a 1>6e,6a 1;7>1ce",
   "11;8>1df 13>64,7a 1>64,7a 1>64,7a 1>1f5 2>195 1>1bf 1;13>1f9 28>19e 2;8>223 18>2c65 1>23c",
   "2>19a 1>2c66 3>242 2>180 1>289 1>28c 1;4>247 6a;1>68 1>266 2>72 1>279 1>27b 1>281 1>77",
   "1>79 20>20,306 1>20,307 1>20,30a 1>20,328 1>20,303 1>20,30b 3>263 1>6c 1>73 1>78 1>295",
   "61>3b9 2b;1>371 6>377 4>20,3b9 5>3f3 5>20,301 1>20,308,301 1>3ac 2:2>3ad 4>3cc 2:1>3cd",
   "3:10>3b1 12:8>3c3 2c>3d7 1>3b2 1>3b8 1>3c5 1>3cd 1>3cb 1>3c6 1>3c0 2;b>3d9 18>3ba 1>3c1",
   "1>3c3 2>3b8 1>3b5 2>3f8 2>3c3 1>3fb 3:2>37b 3:f>450 10:1f>430 50;10>461 2a;1a>48b 36>4cf",
   "1;6>4c2 f;2f>4d1 61:25>561 56>565,582 ee>627,674 1>648,674 1>6c7,674 1>64a,674 7bb>e4d,e32",
   "80>ecd,eb2 29>eab,e99 1>eab,ea1 2f>f0b 6b>fb2,f71,f80 2>fb3,f71,f80 127:25>2d00 27>2d27",
   "6>2d2d 2f>10dc 2fc:5>13f0 888>432 1>434 1>43e 1:1>441 2>442 1>44a 1>463 1>a64b 1>1c8a",
   "7:2a>10d0 2d:2>10fd 6f>61 1>e6 1;1>62 3;4>65 1>1dd 2;3>68 8>6f 1>223 1>70 1>72 1:1>74 2>77",
   "1>61 1:1>250 2>1d02 1>62 1:1>64 2>259 1:1>25b 2>67 2>6b 1;1>6d 1>14b 2>254 1:1>1d16 2>70",
   "1:1>74 2>1d1d 1>26f 1>76 1>1d25 1:2>3b2 3:1>3c6 2>69 1>72 1:1>75 2:1>3b2 2>3c1 1:1>3c6",
   "f>43d 23>252 1>63 1>255 1>f0 1>25c 1>66 1>25f 1>261 1>265 1:2>268 3>1d7b 1>29d 1>26d",
   "1>1d85 1>29f 1>271 1>270 1:3>272 4>278 1:1>282 2>1ab 1:1>289 2>1d1c 1:1>28b 2>7a 1:2>290",
   "3>3b8 41;4a>1e01 9a>61,2be 1>1e61 3>df 2;2f>1ea1 68:7>1f00 10:5>1f10 10:7>1f20 10:7>1f30",
   "10:5>1f40 11;3>1f51 f:7>1f60 18>1f00,3b9 1>1f01,3b9 1>1f02,3b9 1>1f03,3b9 1>1f04,3b9",
   "1>1f05,3b9 1>1f06,3b9 1>1f07,3b9 1>1f00,3b9 1>1f01,3b9 1>1f02,3b9 1>1f03,3b9 1>1f04,3b9",
   "1>1f05,3b9 1>1f06,3b9 1>1f07,3b9 1>1f20,3b9 1>1f21,3b9 1>1f22,3b9 1>1f23,3b9 1>1f24,3b9",
   "1>1f25,3b9 1>1f26,3b9 1>1f27,3b9 1>1f20,3b9 1>1f21,3b9 1>1f22,3b9 1>1f23,3b9 1>1f24,3b9",
   "1>1f25,3b9 1>1f26,3b9 1>1f27,3b9 1>1f60,3b9 1>1f61,3b9 1>1f62,3b9 1>1f63,3b9 1>1f64,3b9",
   "1>1f65,3b9 1>1f66,3b9 1>1f67,3b9 1>1f60,3b9 1>1f61,3b9 1>1f62,3b9 1>1f63,3b9 1>1f64,3b9",
   "1>1f65,3b9 1>1f66,3b9 1>1f67,3b9 3>1f70,3b9 1>3b1,3b9 1>3ac,3b9 3>1fb6,3b9 1:1>1fb0 2>1f70",
   "1>3ac 1>3b1,3b9 1>20,313 2>20,313 1>20,342 1>20,308,342 1>1f74,3b9 1>3b7,3b9 1>3ae,3b9",
   "3>1fc6,3b9 1;1>1f72 1>3ad 2>3ae 1>3b7,3b9 1>20,313,300 1>20,313,301 1>20,313,342 9:1>1fd0",
   "2>1f76 1>3af 2>20,314,300 1>20,314,301 1>20,314,342 9:1>1fe0 2>1f7a 1>3cd 1>1fe5",
   "1>20,308,300 1>20,308,301 4>1f7c,3b9 1>3c9,3b9 1>3ce,3b9 3>1ff6,3b9 1>1f78 1;1>3cc 1>1f7c",
   "2>3c9,3b9 1>20,301 1>20,314 2>20 1>20 1>20 1>20 1>20 1>20 1>20 1>20 1>20 1>20 1>20 7>2010",
   "6>20,333 18>20 4>2032,2032 1>2032,2032,2032 2>2035,2035 1>2035,2035,2035 5>21,21 2>20,305",
   "9>3f,3f 1>3f,21 1>21,3f e>2032,2032,2032,2032 8>20 11>30 1>69 3:5>34 6>2b 1>2212 1>3d",
   "1:1>28 2>6e 1:9>30 a>2b 1>2212 1>3d 1:1>28 3>61 1>65 1>6f 1>78 1>259 1>68 1:3>6b 4>70",
   "1:1>73 d>72,73 58>61,2f,63 1>61,2f,73 1>63 1>b0,63 2>63,2f,6f 1>63,2f,75 1>25b 2>b0,66",
   "1:1>67 2>68 1>68 1>68 1>127 1>69 1>69 1>6c 1;1>6c 3>6e,6f 3:2>70 3>72 1>72 3>73,6d",
   "1>74,65,6c 1>74,6d 2>7a 2>3c9 2>7a 2>6b 1>e5 1:1>62 3>65 1:1>65 2>214e 1>6d 1>6f 1:3>5d0",
   "4>69 2>66,61,78 1>3c0 1>3b3 1>3b3 1>3c0 1>2211 5>64 1:1>64 2:1>69 8>31,2044,37",
   "1>31,2044,39 1>31,2044,31,30 1>31,2044,33 1>32,2044,33 1>31,2044,35 1>32,2044,35",
   "1>33,2044,35 1>34,2044,35 1>31,2044,36 1>35,2044,36 1>31,2044,38 1>33,2044,38 1>35,2044,38",
   "1>37,2044,38 1>31,2044 1>69 1>69,69 1>69,69,69 1>69,76 1>76 1>76,69 1>76,69,69",
   "1>76,69,69,69 1>69,78 1>78 1>78,69 1>78,69,69 1>6c 1:1>63 2>6d 1>69 1>69,69 1>69,69,69",
   "1>69,76 1>76 1>76,69 1>76,69,69 1>76,69,69,69 1>69,78 1>78 1>78,69 1>78,69,69 1>6c 1:1>63",
   "2>6d 4>2184 6>30,2044,33 a3>222b,222b 1>222b,222b,222b 2>222e,222e 1>222e,222e,222e",
   "230:8>31 9>31,30 1>31,31 1>31,32 1>31,33 1>31,34 1>31,35 1>31,36 1>31,37 1>31,38 1>31,39",
   "1>32,30 1>28,31,29 1>28,32,29 1>28,33,29 1>28,34,29 1>28,35,29 1>28,36,29 1>28,37,29",
   "1>28,38,29 1>28,39,29 1>28,31,30,29 1>28,31,31,29 1>28,31,32,29 1>28,31,33,29",
   "1>28,31,34,29 1>28,31,35,29 1>28,31,36,29 1>28,31,37,29 1>28,31,38,29 1>28,31,39,29",
   "1>28,32,30,29 15>28,61,29 1>28,62,29 1>28,63,29 1>28,64,29 1>28,65,29 1>28,66,29",
   "1>28,67,29 1>28,68,29 1>28,69,29 1>28,6a,29 1>28,6b,29 1>28,6c,29 1>28,6d,29 1>28,6e,29",
   "1>28,6f,29 1>28,70,29 1>28,71,29 1>28,72,29 1>28,73,29 1>28,74,29 1>28,75,29 1>28,76,29",
   "1>28,77,29 1>28,78,29 1>28,79,29 1>28,7a,29 1:19>61 1a:19>61 1a>30 522>222b,222b,222b,222b",
   "68>3a,3a,3d 1>3d,3d 1>3d,3d,3d 18a:2f>2c30 60>2c61 2>26b 1>1d7d 1>27d 3;2>2c68 6>251 1>271",
   "1>250 1>252 2>2c73 3>2c76 7>6a 1>76 1:1>23f 2;31>2c81 6b;1>2cec 7>2cf3 7d>2d61 130>6bcd",
   "54>9f9f d>4e00 1>4e28 1>4e36 1>4e3f 1>4e59 1>4e85 1>4e8c 1>4ea0 1>4eba 1>513f 1>5165",
   "1>516b 1>5182 1>5196 1>51ab 1>51e0 1>51f5 1>5200 1>529b 1>52f9 1>5315 1>531a 1>5338 1>5341",
   "1>535c 1>5369 1>5382 1>53b6 1>53c8 1>53e3 1>56d7 1>571f 1>58eb 1>5902 1>590a 1>5915 1>5927",
   "1>5973 1>5b50 1>5b80 1>5bf8 1>5c0f 1>5c22 1>5c38 1>5c6e 1>5c71 1>5ddb 1>5de5 1>5df1 1>5dfe",
   "1>5e72 1>5e7a 1>5e7f 1>5ef4 1>5efe 1>5f0b 1>5f13 1>5f50 1>5f61 1>5f73 1>5fc3 1>6208 1>6236",
   "1>624b 1>652f 1>6534 1>6587 1>6597 1>65a4 1>65b9 1>65e0 1>65e5 1>66f0 1>6708 1>6728 1>6b20",
   "1>6b62 1>6b79 1>6bb3 1>6bcb 1>6bd4 1>6bdb 1>6c0f 1>6c14 1>6c34 1>706b 1>722a 1>7236 1>723b",
   "1>723f 1>7247 1>7259 1>725b 1>72ac 1>7384 1>7389 1>74dc 1>74e6 1>7518 1>751f 1>7528 1>7530",
   "1>758b 1>7592 1>7676 1>767d 1>76ae 1>76bf 1>76ee 1>77db 1>77e2 1>77f3 1>793a 1>79b8 1>79be",
   "1>7a74 1>7acb 1>7af9 1>7c73 1>7cf8 1>7f36 1>7f51 1>7f8a 1>7fbd 1>8001 1>800c 1>8012 1>8033",
   "1>807f 1>8089 1>81e3 1>81ea 1>81f3 1>81fc 1>820c 1>821b 1>821f 1>826e 1>8272 1>8278 1>864d",
   "1>866b 1>8840 1>884c 1>8863 1>897e 1>898b 1>89d2 1>8a00 1>8c37 1>8c46 1>8c55 1>8c78 1>8c9d",
   "1>8d64 1>8d70 1>8db3 1>8eab 1>8eca 1>8f9b 1>8fb0 1>8fb5 1>9091 1>9149 1>91c6 1>91cc 1>91d1",
   "1>9577 1>9580 1>961c 1>96b6 1>96b9 1>96e8 1>9751 1>975e 1>9762 1>9769 1>97cb 1>97ed 1>97f3",
   "1>9801 1>98a8 1>98db 1>98df 1>9996 1>9999 1>99ac 1>9aa8 1>9ad8 1>9adf 1>9b25 1>9b2f 1>9b32",
   "1>9b3c 1>9b5a 1>9ce5 1>9e75 1>9e7f 1>9ea5 1>9ebb 1>9ec3 1>9ecd 1>9ed1 1>9ef9 1>9efd 1>9f0e",
   "1>9f13 1>9f20 1>9f3b 1>9f4a 1>9f52 1>9f8d 1>9f9c 1>9fa0 2b>20 2>2e 34>3012 2>5341 1:1>5344",
   "62>20,3099 1>20,309a 3>3088,308a 60>30b3,30c8 32:1>1100 2;1>11aa 1>1102 2>11ad 1:2>1103",
   "3:5>11b0 6>111a 1:2>1106 3>1121 1:9>1109 a:14>1161 16:1>1114 2:1>11c7 2>11cc 1>11ce 1>11d3",
   "1>11d7 1>11d9 1>111c 1>11dd 1>11df 1:1>111d 2>1120 1:1>1122 2>1127 1>1129 1:4>112b 5>1132",
   "1>1136 1>1140 1>1147 1>114c 1:1>11f1 2:2>1157 3:1>1184 2>1188 1:1>1191 2>1194 1>119e",
   "1>11a1 4>4e00 1>4e8c 1>4e09 1>56db 1>4e0a 1>4e2d 1>4e0b 1>7532 1>4e59 1>4e19 1>4e01 1>5929",
   "1>5730 1>4eba 61>28,1100,29 1>28,1102,29 1>28,1103,29 1>28,1105,29 1>28,1106,29",
   "1>28,1107,29 1>28,1109,29 1>28,110b,29 1>28,110c,29 1>28,110e,29 1>28,110f,29 1>28,1110,29",
   "1>28,1111,29 1>28,1112,29 1>28,ac00,29 1>28,b098,29 1>28,b2e4,29 1>28,b77c,29 1>28,b9c8,29",
   "1>28,bc14,29 1>28,c0ac,29 1>28,c544,29 1>28,c790,29 1>28,cc28,29 1>28,ce74,29 1>28,d0c0,29",
   "1>28,d30c,29 1>28,d558,29 1>28,c8fc,29 1>28,c624,c804,29 1>28,c624,d6c4,29 2>28,4e00,29",
   "1>28,4e8c,29 1>28,4e09,29 1>28,56db,29 1>28,4e94,29 1>28,516d,29 1>28,4e03,29 1>28,516b,29",
   "1>28,4e5d,29 1>28,5341,29 1>28,6708,29 1>28,706b,29 1>28,6c34,29 1>28,6728,29 1>28,91d1,29",
   "1>28,571f,29 1>28,65e5,29 1>28,682a,29 1>28,6709,29 1>28,793e,29 1>28,540d,29 1>28,7279,29",
   "1>28,8ca1,29 1>28,795d,29 1>28,52b4,29 1>28,4ee3,29 1>28,547c,29 1>28,5b66,29 1>28,76e3,29",
   "1>28,4f01,29 1>28,8cc7,29 1>28,5354,29 1>28,796d,29 1>28,4f11,29 1>28,81ea,29 1>28,81f3,29",
   "1>554f 1>5e7c 1>6587 1>7b8f 9>70,74,65 1>32,31 1>32,32 1>32,33 1>32,34 1>32,35 1>32,36",
   "1>32,37 1>32,38 1>32,39 1>33,30 1>33,31 1>33,32 1>33,33 1>33,34 1>33,35 1>1100 1:1>1102",
   "2:2>1105 3>1109 1:1>110b 2:4>110e 5>ac00 1>b098 1>b2e4 1>b77c 1>b9c8 1>bc14 1>c0ac 1>c544",
   "1>c790 1>cc28 1>ce74 1>d0c0 1>d30c 1>d558 1>cc38,ace0 1>c8fc,c758 1>c6b0 2>4e00 1>4e8c",
   "1>4e09 1>56db 1>4e94 1>516d 1>4e03 1>516b 1>4e5d 1>5341 1>6708 1>706b 1>6c34 1>6728 1>91d1",
   "1>571f 1>65e5 1>682a 1>6709 1>793e 1>540d 1>7279 1>8ca1 1>795d 1>52b4 1>79d8 1>7537 1>5973",
   "1>9069 1>512a 1>5370 1>6ce8 1>9805 1>4f11 1>5199 1>6b63 1>4e0a 1>4e2d 1>4e0b 1>5de6 1>53f3",
   "1>533b 1>5b97 1>5b66 1>76e3 1>4f01 1>8cc7 1>5354 1>591c 1>33,36 1>33,37 1>33,38 1>33,39",
   "1>34,30 1>34,31 1>34,32 1>34,33 1>34,34 1>34,35 1>34,36 1>34,37 1>34,38 1>34,39 1>35,30",
   "1>31,6708 1>32,6708 1>33,6708 1>34,6708 1>35,6708 1>36,6708 1>37,6708 1>38,6708 1>39,6708",
   "1>31,30,6708 1>31,31,6708 1>31,32,6708 1>68,67 1>65,72,67 1>65,76 1>6c,74,64 1>30a2 1>30a4",
   "1>30a6 1>30a8 1:1>30aa 2>30ad 1>30af 1>30b1 1>30b3 1>30b5 1>30b7 1>30b9 1>30bb 1>30bd",
   "1>30bf 1>30c1 1>30c4 1>30c6 1>30c8 1:5>30ca 6>30d2 1>30d5 1>30d8 1>30db 1:4>30de 5>30e4",
   "1>30e6 1:5>30e8 6:3>30ef 4>4ee4,548c 1>30a2,30d1,30fc,30c8 1>30a2,30eb,30d5,30a1",
   "1>30a2,30f3,30da,30a2 1>30a2,30fc,30eb 1>30a4,30cb,30f3,30b0 1>30a4,30f3,30c1",
   "1>30a6,30a9,30f3 1>30a8,30b9,30af,30fc,30c9 1>30a8,30fc,30ab,30fc 1>30aa,30f3,30b9",
   "1>30aa,30fc,30e0 1>30ab,30a4,30ea 1>30ab,30e9,30c3,30c8 1>30ab,30ed,30ea,30fc",
   "1>30ac,30ed,30f3 1>30ac,30f3,30de 1>30ae,30ac 1>30ae,30cb,30fc 1>30ad,30e5,30ea,30fc",
   "1>30ae,30eb,30c0,30fc 1>30ad,30ed 1>30ad,30ed,30b0,30e9,30e0",
   "1>30ad,30ed,30e1,30fc,30c8,30eb 1>30ad,30ed,30ef,30c3,30c8 1>30b0,30e9,30e0",
   "1>30b0,30e9,30e0,30c8,30f3 1>30af,30eb,30bc,30a4,30ed 1>30af,30ed,30fc,30cd",
   "1>30b1,30fc,30b9 1>30b3,30eb,30ca 1>30b3,30fc,30dd 1>30b5,30a4,30af,30eb",
   "1>30b5,30f3,30c1,30fc,30e0 1>30b7,30ea,30f3,30b0 1>30bb,30f3,30c1 1>30bb,30f3,30c8",
   "1>30c0,30fc,30b9 1>30c7,30b7 1>30c9,30eb 1>30c8,30f3 1>30ca,30ce 1>30ce,30c3,30c8",
   "1>30cf,30a4,30c4 1>30d1,30fc,30bb,30f3,30c8 1>30d1,30fc,30c4 1>30d0,30fc,30ec,30eb",
   "1>30d4,30a2,30b9,30c8,30eb 1>30d4,30af,30eb 1>30d4,30b3 1>30d3,30eb",
   "1>30d5,30a1,30e9,30c3,30c9 1>30d5,30a3,30fc,30c8 1>30d6,30c3,30b7,30a7,30eb",
   "1>30d5,30e9,30f3 1>30d8,30af,30bf,30fc,30eb 1>30da,30bd 1>30da,30cb,30d2 1>30d8,30eb,30c4",
   "1>30da,30f3,30b9 1>30da,30fc,30b8 1>30d9,30fc,30bf 1>30dd,30a4,30f3,30c8 1>30dc,30eb,30c8",
   "1>30db,30f3 1>30dd,30f3,30c9 1>30db,30fc,30eb 1>30db,30fc,30f3 1>30de,30a4,30af,30ed",
   "1>30de,30a4,30eb 1>30de,30c3,30cf 1>30de,30eb,30af 1>30de,30f3,30b7,30e7,30f3",
   "1>30df,30af,30ed,30f3 1>30df,30ea 1>30df,30ea,30d0,30fc,30eb 1>30e1,30ac",
   "1>30e1,30ac,30c8,30f3 1>30e1,30fc,30c8,30eb 1>30e4,30fc,30c9 1>30e4,30fc,30eb",
   "1>30e6,30a2,30f3 1>30ea,30c3,30c8,30eb 1>30ea,30e9 1>30eb,30d4,30fc 1>30eb,30fc,30d6,30eb",
   "1>30ec,30e0 1>30ec,30f3,30c8,30b2,30f3 1>30ef,30c3,30c8 1>30,70b9 1>31,70b9 1>32,70b9",
   "1>33,70b9 1>34,70b9 1>35,70b9 1>36,70b9 1>37,70b9 1>38,70b9 1>39,70b9 1>31,30,70b9",
   "1>31,31,70b9 1>31,32,70b9 1>31,33,70b9 1>31,34,70b9 1>31,35,70b9 1>31,36,70b9 1>31,37,70b9",
   "1>31,38,70b9 1>31,39,70b9 1>32,30,70b9 1>32,31,70b9 1>32,32,70b9 1>32,33,70b9 1>32,34,70b9",
   "1>68,70,61 1>64,61 1>61,75 1>62,61,72 1>6f,76 1>70,63 1>64,6d 1>64,6d,32 1>64,6d,33",
   "1>69,75 1>5e73,6210 1>662d,548c 1>5927,6b63 1>660e,6cbb 1>682a,5f0f,4f1a,793e 1>70,61",
   "1>6e,61 1>3bc,61 1>6d,61 1>6b,61 1>6b,62 1>6d,62 1>67,62 1>63,61,6c 1>6b,63,61,6c 1>70,66",
   "1>6e,66 1>3bc,66 1>3bc,67 1>6d,67 1>6b,67 1>68,7a 1>6b,68,7a 1>6d,68,7a 1>67,68,7a",
   "1>74,68,7a 1>3bc,6c 1>6d,6c 1>64,6c 1>6b,6c 1>66,6d 1>6e,6d 1>3bc,6d 1>6d,6d 1>63,6d",
   "1>6b,6d 1>6d,6d,32 1>63,6d,32 1>6d,32 1>6b,6d,32 1>6d,6d,33 1>63,6d,33 1>6d,33 1>6b,6d,33",
   "1>6d,2215,73 1>6d,2215,73,32 1>70,61 1>6b,70,61 1>6d,70,61 1>67,70,61 1>72,61,64",
   "1>72,61,64,2215,73 1>72,61,64,2215,73,32 1>70,73 1>6e,73 1>3bc,73 1>6d,73 1>70,76 1>6e,76",
   "1>3bc,76 1>6d,76 1>6b,76 1>6d,76 1>70,77 1>6e,77 1>3bc,77 1>6d,77 1>6b,77 1>6d,77 1>6b,3c9",
   "1>6d,3c9 2>62,71 1>63,63 1>63,64 1>63,2215,6b,67 2>64,62 1>67,79 1>68,61 1>68,70 1>69,6e",
   "1>6b,6b 1>6b,6d 1>6b,74 1>6c,6d 1>6c,6e 1>6c,6f,67 1>6c,78 1>6d,62 1>6d,69,6c 1>6d,6f,6c",
   "1>70,68 2>70,70,6d 1>70,72 1>73,72 1>73,76 1>77,62 1>76,2215,6d 1>61,2215,6d 1>31,65e5",
   "1>32,65e5 1>33,65e5 1>34,65e5 1>35,65e5 1>36,65e5 1>37,65e5 1>38,65e5 1>39,65e5",
   "1>31,30,65e5 1>31,31,65e5 1>31,32,65e5 1>31,33,65e5 1>31,34,65e5 1>31,35,65e5 1>31,36,65e5",
   "1>31,37,65e5 1>31,38,65e5 1>31,39,65e5 1>32,30,65e5 1>32,31,65e5 1>32,32,65e5 1>32,33,65e5",
   "1>32,34,65e5 1>32,35,65e5 1>32,36,65e5 1>32,37,65e5 1>32,38,65e5 1>32,39,65e5 1>33,30,65e5",
   "1>33,31,65e5 1>67,61,6c 7241;16>a641 40;d>a681 1c>44a 1>44c 85;6>a723 10;1e>a733 3e>a76f",
   "9;1>a77a 4>1d79 1;4>a77f d>a78c 2>265 3;1>a791 6;9>a797 14>266 1>25c 1>261 1>26c 1>26a",
   "2>29e 1>287 1>29d 1>ab53 1;7>a7b5 10>a794 1>282 1>1d8e 1;1>a7c8 4>264 1>a7cd 4>a7d1",
   "6;2>a7d7 6>19b 16>63 1>66 1>71 1>a7f6 3>127 1>153 363>a727 1>ab37 1>26b 1>ab52 a>28d",
   "7:4f>13a0 4f90>66,66 1>66,69 1>66,6c 1>66,66,69 1>66,66,6c 1>73,74 1>73,74 d>574,576",
   "1>574,565 1>574,56b 1>57e,576 1>574,56d 9>5e2 1>5d0 1:1>5d3 2:2>5db 3>5e8 1>5ea 1>2b",
   "26>5d0,5dc 1>671 1>671 1>67b 1>67b 1>67b 1>67b 1>67e 1>67e 1;1>67e 1;1>67e 3>680 1>680",
   "1>67a 1>67a 1>67a 1>67a 1>67f 1>67f 1>67f 1>67f 1>679 1>679 1>679 1>679 1>6a4 1>6a4",
   "1;1>6a4 1;1>6a4 3>6a6 1>6a6 1>684 1>684 1>684 1>684 1>683 1>683 1>683 1>683 1>686 1>686",
   "1>686 1:1>686 2>687 1>687 1>687 1>68d 1>68d 1;1>68c 1;1>68c 3>688 1>688 1>698 1>698 1>691",
   "1>691 1>6a9 1>6a9 1>6a9 1>6a9 1>6af 1>6af 1>6af 1>6af 1>6b3 1>6b3 1>6b3 1>6b3 1>6b1 1>6b1",
   "1>6b1 1>6b1 1>6ba 1:1>6ba 2>6bb 1>6bb 1>6bb 1>6c0 1:1>6c0 2>6c1 1>6c1 1>6c1 1>6be 1>6be",
   "1>6be 1>6be 1>6d2 1:1>6d2 2>6d3 22>6ad 1>6ad 1>6ad 1>6ad 1>6c7 1>6c7 1;1>6c6 1;1>6c6",
   "3>6c7,674 1>6cb 1>6cb 1>6c5 1>6c5 1>6c9 1>6c9 1>6d0 1>6d0 1>6d0 1>6d0 1>649 1>649",
   "1>626,627 1>626,627 1>626,6d5 1>626,6d5 1>626,648 1>626,648 1>626,6c7 1>626,6c7 1>626,6c6",
   "1>626,6c6 1>626,6c8 1>626,6c8 1>626,6d0 1>626,6d0 1>626,6d0 1>626,649 1>626,649 1>626,649",
   "1>6cc 1>6cc 1>6cc 1>6cc 1>626,62c 1>626,62d 1>626,645 1>626,649 1>626,64a 1>628,62c",
   "1>628,62d 1>628,62e 1>628,645 1>628,649 1>628,64a 1>62a,62c 1>62a,62d 1>62a,62e 1>62a,645",
   "1>62a,649 1>62a,64a 1>62b,62c 1>62b,645 1>62b,649 1>62b,64a 1>62c,62d 1>62c,645 1>62d,62c",
   "1>62d,645 1>62e,62c 1>62e,62d 1>62e,645 1>633,62c 1>633,62d 1>633,62e 1>633,645 1>635,62d",
   "1>635,645 1>636,62c 1>636,62d 1>636,62e 1>636,645 1>637,62d 1>637,645 1>638,645 1>639,62c",
   "1>639,645 1>63a,62c 1>63a,645 1>641,62c 1>641,62d 1>641,62e 1>641,645 1>641,649 1>641,64a",
   "1>642,62d 1>642,645 1>642,649 1>642,64a 1>643,627 1>643,62c 1>643,62d 1>643,62e 1>643,644",
   "1>643,645 1>643,649 1>643,64a 1>644,62c 1>644,62d 1>644,62e 1>644,645 1>644,649 1>644,64a",
   "1>645,62c 1>645,62d 1>645,62e 1>645,645 1>645,649 1>645,64a 1>646,62c 1>646,62d 1>646,62e",
   "1>646,645 1>646,649 1>646,64a 1>647,62c 1>647,645 1>647,649 1>647,64a 1>64a,62c 1>64a,62d",
   "1>64a,62e 1>64a,645 1>64a,649 1>64a,64a 1>630,670 1>631,670 1>649,670 1>20,64c,651",
   "1>20,64d,651 1>20,64e,651 1>20,64f,651 1>20,650,651 1>20,651,670 1>626,631 1>626,632",
   "1>626,645 1>626,646 1>626,649 1>626,64a 1>628,631 1>628,632 1>628,645 1>628,646 1>628,649",
   "1>628,64a 1>62a,631 1>62a,632 1>62a,645 1>62a,646 1>62a,649 1>62a,64a 1>62b,631 1>62b,632",
   "1>62b,645 1>62b,646 1>62b,649 1>62b,64a 1>641,649 1>641,64a 1>642,649 1>642,64a 1>643,627",
   "1>643,644 1>643,645 1>643,649 1>643,64a 1>644,645 1>644,649 1>644,64a 1>645,627 1>645,645",
   "1>646,631 1>646,632 1>646,645 1>646,646 1>646,649 1>646,64a 1>649,670 1>64a,631 1>64a,632",
   "1>64a,645 1>64a,646 1>64a,649 1>64a,64a 1>626,62c 1>626,62d 1>626,62e 1>626,645 1>626,647",
   "1>628,62c 1>628,62d 1>628,62e 1>628,645 1>628,647 1>62a,62c 1>62a,62d 1>62a,62e 1>62a,645",
   "1>62a,647 1>62b,645 1>62c,62d 1>62c,645 1>62d,62c 1>62d,645 1>62e,62c 1>62e,645 1>633,62c",
   "1>633,62d 1>633,62e 1>633,645 1>635,62d 1>635,62e 1>635,645 1>636,62c 1>636,62d 1>636,62e",
   "1>636,645 1>637,62d 1>638,645 1>639,62c 1>639,645 1>63a,62c 1>63a,645 1>641,62c 1>641,62d",
   "1>641,62e 1>641,645 1>642,62d 1>642,645 1>643,62c 1>643,62d 1>643,62e 1>643,644 1>643,645",
   "1>644,62c 1>644,62d 1>644,62e 1>644,645 1>644,647 1>645,62c 1>645,62d 1>645,62e 1>645,645",
   "1>646,62c 1>646,62d 1>646,62e 1>646,645 1>646,647 1>647,62c 1>647,645 1>647,670 1>64a,62c",
   "1>64a,62d 1>64a,62e 1>64a,645 1>64a,647 1>626,645 1>626,647 1>628,645 1>628,647 1>62a,645",
   "1>62a,647 1>62b,645 1>62b,647 1>633,645 1>633,647 1>634,645 1>634,647 1>643,644 1>643,645",
   "1>644,645 1>646,645 1>646,647 1>64a,645 1>64a,647 1>640,64e,651 1>640,64f,651",
   "1>640,650,651 1>637,649 1>637,64a 1>639,649 1>639,64a 1>63a,649 1>63a,64a 1>633,649",
   "1>633,64a 1>634,649 1>634,64a 1>62d,649 1>62d,64a 1>62c,649 1>62c,64a 1>62e,649 1>62e,64a",
   "1>635,649 1>635,64a 1>636,649 1>636,64a 1>634,62c 1>634,62d 1>634,62e 1>634,645 1>634,631",
   "1>633,631 1>635,631 1>636,631 1>637,649 1>637,64a 1>639,649 1>639,64a 1>63a,649 1>63a,64a",
   "1>633,649 1>633,64a 1>634,649 1>634,64a 1>62d,649 1>62d,64a 1>62c,649 1>62c,64a 1>62e,649",
   "1>62e,64a 1>635,649 1>635,64a 1>636,649 1>636,64a 1>634,62c 1>634,62d 1>634,62e 1>634,645",
   "1>634,631 1>633,631 1>635,631 1>636,631 1>634,62c 1>634,62d 1>634,62e 1>634,645 1>633,647",
   "1>634,647 1>637,645 1>633,62c 1>633,62d 1>633,62e 1>634,62c 1>634,62d 1>634,62e 1>637,645",
   "1>638,645 1>627,64b 1>627,64b 13>62a,62c,645 1>62a,62d,62c 1>62a,62d,62c 1>62a,62d,645",
   "1>62a,62e,645 1>62a,645,62c 1>62a,645,62d 1>62a,645,62e 1>62c,645,62d 1>62c,645,62d",
   "1>62d,645,64a 1>62d,645,649 1>633,62d,62c 1>633,62c,62d 1>633,62c,649 1>633,645,62d",
   "1>633,645,62d 1>633,645,62c 1>633,645,645 1>633,645,645 1>635,62d,62d 1>635,62d,62d",
   "1>635,645,645 1>634,62d,645 1>634,62d,645 1>634,62c,64a 1>634,645,62e 1>634,645,62e",
   "1>634,645,645 1>634,645,645 1>636,62d,649 1>636,62e,645 1>636,62e,645 1>637,645,62d",
   "1>637,645,62d 1>637,645,645 1>637,645,64a 1>639,62c,645 1>639,645,645 1>639,645,645",
   "1>639,645,649 1>63a,645,645 1>63a,645,64a 1>63a,645,649 1>641,62e,645 1>641,62e,645",
   "1>642,645,62d 1>642,645,645 1>644,62d,645 1>644,62d,64a 1>644,62d,649 1>644,62c,62c",
   "1>644,62c,62c 1>644,62e,645 1>644,62e,645 1>644,645,62d 1>644,645,62d 1>645,62d,62c",
   "1>645,62d,645 1>645,62d,64a 1>645,62c,62d 1>645,62c,645 1>645,62e,62c 1>645,62e,645",
   "3>645,62c,62e 1>647,645,62c 1>647,645,645 1>646,62d,645 1>646,62d,649 1>646,62c,645",
   "1>646,62c,645 1>646,62c,649 1>646,645,64a 1>646,645,649 1>64a,645,645 1>64a,645,645",
   "1>628,62e,64a 1>62a,62c,64a 1>62a,62c,649 1>62a,62e,64a 1>62a,62e,649 1>62a,645,64a",
   "1>62a,645,649 1>62c,645,64a 1>62c,62d,649 1>62c,645,649 1>633,62e,649 1>635,62d,64a",
   "1>634,62d,64a 1>636,62d,64a 1>644,62c,64a 1>644,645,64a 1>64a,62d,64a 1>64a,62c,64a",
   "1>64a,645,64a 1>645,645,64a 1>642,645,64a 1>646,62d,64a 1>642,645,62d 1>644,62d,645",
   "1>639,645,64a 1>643,645,64a 1>646,62c,62d 1>645,62e,64a 1>644,62c,645 1>643,645,645",
   "1>644,62c,645 1>646,62c,62d 1>62c,62d,64a 1>62d,62c,64a 1>645,62c,64a 1>641,645,64a",
   "1>628,62d,64a 1>643,645,645 1>639,62c,645 1>635,645,645 1>633,62e,64a 1>646,62c,64a",
   "29>635,644,6d2 1>642,644,6d2 1>627,644,644,647 1>627,643,628,631 1>645,62d,645,62f",
   "1>635,644,639,645 1>631,633,648,644 1>639,644,64a,647 1>648,633,644,645 1>635,644,649",
   "1>635,644,649,20,627,644,644,647,20,639,644,64a,647,20,648,633,644,645",
   "1>62c,644,20,62c,644,627,644,647 1>631,6cc,627,644 14>2c 1>3001 2:1>3a 2>21 1>3f 1:1>3016",
   "1a>2014 1>2013 1>5f 1>5f 1:1>28 2>7b 1>7d 1:1>3014 2:1>3010 2:1>300a 2:1>3008 2:3>300c",
   "6>5b 1>5d 1>20,305 1>20,305 1>20,305 1>20,305 1>5f 1>5f 1>5f 1>2c 1>3001 3>3b 1>3a 1>3f",
   "1>21 1>2014 1:1>28 2>7b 1>7d 1:1>3014 2>23 1>26 1:1>2a 2>2d 1>3c 1>3e 1>3d 2>5c 1:1>24",
   "2>40 5>20,64b 1>640,64b 1>20,64c 2>20,64d 2>20,64e 1>640,64e 1>20,64f 1>640,64f 1>20,650",
   "1>640,650 1>20,651 1>640,651 1>20,652 1>640,652 1:1>621 2:1>622 2:1>623 2:1>624 2:1>625",
   "2>626 1>626 1:1>626 2:1>627 2>628 1>628 1:1>628 2:1>629 2>62a 1>62a 1:1>62a 2>62b 1>62b",
   "1:1>62b 2>62c 1>62c 1:1>62c 2>62d 1>62d 1:1>62d 2>62e 1>62e 1:1>62e 2:1>62f 2:1>630",
   "2:1>631 2:1>632 2>633 1>633 1:1>633 2>634 1>634 1:1>634 2>635 1>635 1:1>635 2>636 1>636",
   "1:1>636 2>637 1>637 1:1>637 2>638 1>638 1:1>638 2>639 1>639 1:1>639 2>63a 1>63a 1>63a",
   "1>641 1>641 1>641 1:1>641 2>642 1>642 1:1>642 2>643 1>643 1:1>643 2>644 1>644 1:1>644",
   "2>645 1>645 1:1>645 2>646 1>646 1:1>646 2>647 1>647 1:1>647 2:1>648 2:1>649 2>64a 1>64a",
   "1>64a 1>644,622 1>644,622 1>644,623 1>644,623 1>644,625 1>644,625 1>644,627 1>644,627",
   "5:1f>21 20:19>61 1a:23>5b 24:1>2985 2>2e 1:1>300c 2>3001 1>30fb 1>30f2 1>30a1 1>30a3",
   "1>30a5 1>30a7 1>30a9 1>30e3 1>30e5 1>30e7 1>30c3 1>30fc 1>30a2 1>30a4 1>30a6 1>30a8",
   "1:1>30aa 2>30ad 1>30af 1>30b1 1>30b3 1>30b5 1>30b7 1>30b9 1>30bb 1>30bd 1>30bf 1>30c1",
   "1>30c4 1>30c6 1>30c8 1:5>30ca 6>30d2 1>30d5 1>30d8 1>30db 1:4>30de 5>30e4 1>30e6 1:5>30e8",
   "6>30ef 1>30f3 1:1>3099 3:1>1100 2;1>11aa 1>1102 2>11ad 1:2>1103 3:5>11b0 6>111a 1:2>1106",
   "3>1121 1:9>1109 d:5>1161 8:5>1167 8:5>116d 8:2>1173 6:1>a2 2>ac 1>20,304 1>a6 1>a5 1>20a9",
   "2>2502 1:3>2190 4>25a0 1>25cb 412:27>10428 b0:23>104d8 c0;12>10597 1;4>10598 c;6>105a4",
   "10;2>105b4 8>105bc 1ec:1>2d0 2>e6 1>299 1>253 2;1>2a3 1>ab66 2>2a4 1:1>256 2>1d91 1>258",
   "1>25e 1>2a9 1>264 1>262 1>260 1>29b 1>127 1>29c 1>267 1>284 1:1>2aa 2>26c 1>1df04 1>a78e",
   "1>26e 1>1df05 1>28e 1>1df06 1>f8 1:1>276 2>71 1>27a 1>1df08 1:1>27d 2>280 1>2a8 1>2a6",
   "1>ab67 1>2a7 1>288 1>2c71 2>28f 1:1>2a1 2>298 1:2>1c0 3>1df0a 1>1df1e 4c6:32>10cc0",
   "d0:15>10d70 b50:1f>118c0 55a0:1f>16e60 5e96:19>61 1a:9>30 710:19>61 1a:19>61 1a:19>61",
   "1a;c>61 1;2>62 8;8>6a 11:19>61 1a:19>61 1a;1>61 3>64 3>67 3:1>6a 4:3>6e 5:7>73 8:3>61",
   "5;a>66 3;2>69 8;4>71 a:19>61 1a:19>61 1a:1>61 3:3>64 6:7>6a 9:6>73 8:19>61 1a:1>61 3:3>64",
   "5:4>69 6>6f 4:6>73 8:19>61 1a:19>61 1a:19>61 1a:19>61 1a:19>61 1a:19>61 1a:19>61 1a:19>61",
   "1a:19>61 1a:19>61 1a:19>61 1a:19>61 1a:19>61 1a>131 1>237 3:10>3b1 11>3b8 1:6>3c3 7>2207",
   "1:10>3b1 11>3c3 1:6>3c3 7>2202 1>3b5 1>3b8 1>3ba 1>3c6 1>3c1 1>3c0 1:10>3b1 11>3b8 1:6>3c3",
   "7>2207 1:10>3b1 11>3c3 1:6>3c3 7>2202 1>3b5 1>3b8 1>3ba 1>3c6 1>3c1 1>3c0 1:10>3b1 11>3b8",
   "1:6>3c3 7>2207 1:10>3b1 11>3c3 1:6>3c3 7>2202 1>3b5 1>3b8 1>3ba 1>3c6 1>3c1 1>3c0 1:10>3b1",
   "11>3b8 1:6>3c3 7>2207 1:10>3b1 11>3c3 1:6>3c3 7>2202 1>3b5 1>3b8 1>3ba 1>3c6 1>3c1 1>3c0",
   "1:10>3b1 11>3b8 1:6>3c3 7>2207 1:10>3b1 11>3c3 1:6>3c3 7>2202 1>3b5 1>3b8 1>3ba 1>3c6",
   "1>3c1 1>3c0 1>3dd 1>3dd 3:9>30 a:9>30 a:9>30 a:9>30 a:9>30 83a:8>430 9:2>43a 3:a>43e b>44b",
   "1:1>44d 2>a689 1>4d9 1>456 1>458 1>4e9 1>4af 1>4cf 1:8>430 9:1>43a 2:1>43e 2>441 1:5>443",
   "6:1>44a 2>491 1>456 1>455 1>45f 1>4ab 1>a651 1>4b1 893:21>1e922 500:1>627 2>62c 1>62f",
   "2>648 1>632 1>62d 1>637 1>64a 1:3>643 4>633 1>639 1>641 1>635 1>642 1>631 1>634 1:1>62a",
   "2>62e 1>630 1>636 1>638 1>63a 1>66e 1>6ba 1>6a1 1>66f 2>628 1>62c 2>647 3>62d 2>64a",
   "1:3>643 4>633 1>639 1>641 1>635 1>642 2>634 1:1>62a 2>62e 2>636 2>63a 7>62c 5>62d 2>64a",
   "2;1>644 3>633 1>639 2>635 1>642 2>634 3>62e 2>636 2>63a 2>6ba 2>66f 2>628 1>62c 2>647",
   "3>62d 1>637 1>64a 1;1>643 3>646 1>633 1>639 1>641 1>635 1>642 2>634 1:1>62a 2>62e 2>636",
   "1>638 1>63a 1>66e 2>6a1 2:1>627 2>62c 1>62f 1:1>647 2>632 1>62d 1>637 1>64a 2:2>644 3>633",
   "1>639 1>641 1>635 1>642 1>631 1>634 1:1>62a 2>62e 1>630 1>636 1>638 1>63a 6>628 1>62c",
   "1>62f 2>648 1>632 1>62d 1>637 1>64a 2:2>644 3>633 1>639 1>641 1>635 1>642 1>631 1>634",
   "1:1>62a 2>62e 1>630 1>636 1>638 1>63a 246>30,2c 1>31,2c 1>32,2c 1>33,2c 1>34,2c 1>35,2c",
   "1>36,2c 1>37,2c 1>38,2c 1>39,2c 6>28,61,29 1>28,62,29 1>28,63,29 1>28,64,29 1>28,65,29",
   "1>28,66,29 1>28,67,29 1>28,68,29 1>28,69,29 1>28,6a,29 1>28,6b,29 1>28,6c,29 1>28,6d,29",
   "1>28,6e,29 1>28,6f,29 1>28,70,29 1>28,71,29 1>28,72,29 1>28,73,29 1>28,74,29 1>28,75,29",
   "1>28,76,29 1>28,77,29 1>28,78,29 1>28,79,29 1>28,7a,29 1>3014,73,3015 1>63 1>72 1>63,64",
   "1>77,7a 2:19>61 1a>68,76 1>6d,76 1>73,64 1>73,73 1>70,70,76 1>77,63 1b>6d,63 1>6d,64",
   "1>6d,72 24>64,6a 70>307b,304b 1>30b3,30b3 1>30b5 e>624b 1>5b57 1>53cc 1>30c7 1>4e8c 1>591a",
   "1>89e3 1>5929 1>4ea4 1>6620 1>7121 1>6599 1>524d 1>5f8c 1>518d 1>65b0 1>521d 1>7d42 1>751f",
   "1>8ca9 1>58f0 1>5439 1>6f14 1>6295 1>6355 1>4e00 1>4e09 1>904a 1>5de6 1>4e2d 1>53f3 1>6307",
   "1>8d70 1>6253 1>7981 1>7a7a 1>5408 1>6e80 1>6709 1>6708 1>7533 1>5272 1>55b6 1>914d",
   "5>3014,672c,3015 1>3014,4e09,3015 1>3014,4e8c,3015 1>3014,5b89,3015 1>3014,70b9,3015",
   "1>3014,6253,3015 1>3014,76d7,3015 1>3014,52dd,3015 1>3014,6557,3015 8>5f97 1>53ef 99f:9>30"]

/-- The replacements of code points beyond ASCII. -/
def replacements : List Replacement := Replacement.ofLines replacementTable

end Readiness.Url.Domain
